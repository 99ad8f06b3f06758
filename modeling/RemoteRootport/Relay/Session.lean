import RemoteRootport.DoeEmu.Discovery
import RemoteRootport.DoeEmu.Dispatch
import RemoteRootport.Relay.Stack

/-!
# DOE exchanges through the relay

A host that has located the mailbox writes a request, starts it and reads the
response, as often as it likes, and may poll the status register at any time.  Over
the whole chain of processes it reads the responses to its requests, dword by dword
and in order.
-/

namespace RemoteRootport.Relay

open RemoteRootport.Bytes
open RemoteRootport.Machine
open RemoteRootport.Wire
open RemoteRootport.DoeEmu

variable (table : List Protocol)

/-! ## Exchanges with the mailbox -/

/-- The dwords a sequence of accesses fetches from the read mailbox. -/
def fetched (mailbox : Mailbox) : List Access → List Dword
  | [] => []
  | .read reg :: rest =>
      if reg = doeRegRead then mailbox.read reg :: fetched mailbox rest
      else fetched mailbox rest
  | .write reg val :: rest => fetched (mailbox.write table reg val) rest

/-- The response to a request. -/
def responseDwords (words : List Dword) : List Dword :=
  ((answer table words).map Response.dwords).getD []

/-- Write a request, start it, and read and acknowledge the response. -/
def exchangeAccesses (words : List Dword) : List Access :=
  submit words doeCtrlGo ++ drain (responseDwords table words).length

theorem fetched_append (mailbox : Mailbox) (first second : List Access) :
    fetched table mailbox (first ++ second) =
      fetched table mailbox first ++ fetched table (mailbox.after table first) second := by
  induction first generalizing mailbox with
  | nil => rfl
  | cons access rest ih =>
      cases access with
      | read reg =>
          rw [List.cons_append, fetched, fetched]
          split
          case isTrue => exact congrArg _ (ih mailbox)
          case isFalse => exact ih mailbox
      | write reg val => exact ih _

/-- Polling the status register changes nothing. -/
theorem fetched_filter (mailbox : Mailbox) (accesses : List Access) :
    fetched table mailbox (accesses.filter (· ≠ .read doeRegStatus)) =
      fetched table mailbox accesses := by
  induction accesses generalizing mailbox with
  | nil => rfl
  | cons access rest ih =>
      by_cases poll : access = .read doeRegStatus
      · rw [List.filter_cons_of_neg (by simp [poll]), ih, poll, fetched, if_neg (by decide)]
      · rw [List.filter_cons_of_pos (by simp [poll])]
        cases access with
        | read reg => rw [fetched, fetched, ih]
        | write reg val => exact ih _

theorem fetched_submit (mailbox : Mailbox) (words : List Dword) (val : Dword) :
    fetched table mailbox (submit words val) = [] := by
  rw [submit]
  induction words generalizing mailbox with
  | nil => rfl
  | cons word rest ih => exact ih _

theorem fetched_drain (mailbox : Mailbox) (count : Nat) :
    fetched table mailbox (drain count) =
      (Transducer.specRun (Mailbox.step table) mailbox (drain count)).2.reduceOption := by
  induction count generalizing mailbox with
  | zero => rfl
  | succ count ih =>
      rw [drain_succ, fetched, if_pos rfl, fetched, ih]
      rfl

/-- A request that is served is answered the same if the buffer cuts it. -/
theorem answer_take {words : List Dword} (answerable : Answerable words) :
    ∃ response, answer table (words.take doeBufDwords) = some response ∧
      responseDwords table words = response.dwords := by
  match words, answerable with
  | first :: second :: third :: rest, served =>
      have answered (rest : List Dword) : answer table (first :: second :: third :: rest) = _ :=
        answer_of_served table served
      refine ⟨_, answered _, ?_⟩
      rw [responseDwords, answered]
      rfl

/-- An exchange fetches the response and leaves the mailbox empty. -/
theorem fetched_exchange {mailbox : Mailbox} (unwritten : mailbox.request = [])
    {words : List Dword} (answerable : Answerable words) :
    fetched table mailbox (exchangeAccesses table words) = responseDwords table words ∧
      mailbox.after table (exchangeAccesses table words) = Mailbox.empty := by
  rcases Mailbox.after_submit table unwritten words (rfl : hasGo doeCtrlGo = true) rfl with
    ⟨written, request, started⟩
  rcases answer_take table answerable with ⟨response, answered, dwords⟩
  rw [← request] at answered
  have draining : Draining .ready response.dwords 0 (written.go table) := by
    rw [Mailbox.go, answered]
    refine ⟨rfl, ?_⟩
    rw [if_pos (List.length_pos_iff.mpr response.dwords_ne_nil)]
  have cleared : (written.go table).request = [] := by
    rw [Mailbox.go, answered]
  rcases draining.drained table response.dwords.length (by omega) with ⟨outputs, drained⟩
  rw [exchangeAccesses, dwords]
  constructor
  · rw [fetched_append, fetched_submit, started, fetched_drain, outputs, reduceOption_flatMap]
    exact List.take_length
  · rw [Mailbox.after_append, started]
    apply drained.finished (by omega)
    exact Mailbox.request_unchanged table _ _ (drain_quiet _) cleared

/-- Any number of exchanges fetch their responses one after the other. -/
theorem fetched_session {mailbox : Mailbox} (unwritten : mailbox.request = [])
    {session : List (List Dword)} (answerable : ∀ words ∈ session, Answerable words) :
    fetched table mailbox (session.flatMap (exchangeAccesses table)) =
      session.flatMap (responseDwords table) := by
  induction session generalizing mailbox with
  | nil => rfl
  | cons words rest ih =>
      rcases List.forall_mem_cons.mp answerable with ⟨first, others⟩
      rcases fetched_exchange table unwritten first with ⟨response, emptied⟩
      rw [List.flatMap_cons, List.flatMap_cons, fetched_append, response, emptied, ih rfl others]

/-! ## Exchanges with the device -/

/-- The access to the registers at a base that an operation stands for. -/
def accessAt (base : Dword) (op : ConfigOp) : Access :=
  if op.type = averyOpWrite then .write (op.offset - base) op.value else .read (op.offset - base)

/-- The values of the operations that read the read mailbox. -/
def valuesRead (base : Dword) (ops : List ConfigOp) : List Dword :=
  ops.filterMap fun op => if accessAt base op = .read doeRegRead then some op.value else none

theorem accessAt_write {base : Dword} {op : ConfigOp} (write : op.type = averyOpWrite) :
    accessAt base op = .write (op.offset - base) op.value :=
  if_pos write

theorem accessAt_read {base : Dword} {op : ConfigOp} (read : op.type ≠ averyOpWrite) :
    accessAt base op = .read (op.offset - base) :=
  if_neg read

theorem valuesRead_write {base : Dword} {op : ConfigOp} (write : op.type = averyOpWrite)
    (rest : List ConfigOp) : valuesRead base (op :: rest) = valuesRead base rest := by
  rw [valuesRead, List.filterMap_cons, accessAt_write write]
  rfl

theorem valuesRead_read {base : Dword} {op : ConfigOp} (read : op.type ≠ averyOpWrite)
    (rest : List ConfigOp) :
    valuesRead base (op :: rest) =
      if op.offset - base = doeRegRead then op.value :: valuesRead base rest
      else valuesRead base rest := by
  rw [valuesRead, List.filterMap_cons, accessAt_read read]
  by_cases mailbox : op.offset - base = doeRegRead
  · rw [if_pos mailbox, mailbox]
    rfl
  · have other : Access.read (op.offset - base) ≠ .read doeRegRead :=
      fun same => mailbox (Access.read.inj same)
    rw [if_neg mailbox, if_neg other]
    rfl

theorem completions_write (device : Device) {op : ConfigOp} (write : op.type = averyOpWrite)
    (rest : List ConfigOp) :
    completions table device (op :: rest) =
      { op with status := 0, value := 0 } ::
        completions table (device.write table op.offset op.value) rest := by
  have first : completions table device (op :: rest) =
      (operate table device op).2 :: completions table (operate table device op).1 rest := rfl
  rw [first, operate, if_pos write]

theorem completions_read (device : Device) {op : ConfigOp} (read : op.type ≠ averyOpWrite)
    (rest : List ConfigOp) :
    completions table device (op :: rest) =
      { op with status := 0, value := (device.read op.offset).2 } ::
        completions table (device.read op.offset).1 rest := by
  have first : completions table device (op :: rest) =
      (operate table device op).2 :: completions table (operate table device op).1 rest := rfl
  rw [first, operate, if_neg read]

/-- At a device that has its place the operations fetch what their accesses do. -/
theorem valuesRead_completions (base : Dword) (mailbox : Mailbox) (ops : List ConfigOp) :
    valuesRead base (completions table (.located base mailbox) ops) =
      fetched table mailbox (ops.map (accessAt base)) := by
  induction ops generalizing mailbox with
  | nil => rfl
  | cons op rest ih =>
      by_cases write : op.type = averyOpWrite
      · rw [completions_write table _ write, valuesRead_write, List.map_cons, accessAt_write write]
        · exact ih _
        · exact write
      · rw [completions_read table _ write, valuesRead_read, List.map_cons, accessAt_read write,
          fetched, ← ih]
        · rfl
        · exact write

/-- Writes before the first read are lost. -/
theorem valuesRead_lost {lost : List ConfigOp} (writes : ∀ op ∈ lost, op.type = averyOpWrite)
    (base : Dword) (rest : List ConfigOp) :
    valuesRead base (completions table .unlocated (lost ++ rest)) =
      valuesRead base (completions table .unlocated rest) := by
  induction lost with
  | nil => rfl
  | cons op lost ih =>
      rcases List.forall_mem_cons.mp writes with ⟨write, others⟩
      rw [List.cons_append, completions_write table _ write, valuesRead_write]
      · exact ih others
      · exact write

/-- The first operation that is not a write, at the status register of a base, gives the
device its place there. -/
theorem valuesRead_unlocated {base : Dword} {first : ConfigOp} (read : first.type ≠ averyOpWrite)
    (place : first.offset = base + doeRegStatus) (rest : List ConfigOp) :
    valuesRead base (completions table .unlocated (first :: rest)) =
      fetched table .empty (rest.map (accessAt base)) := by
  have located : (Device.unlocated.read first.offset).1 = .located base .empty := by
    rw [Device.read, place, BitVec.add_sub_cancel]
  have unread : first.offset - base ≠ doeRegRead := by
    rw [place, BitVec.add_comm, BitVec.add_sub_cancel]
    decide
  rw [completions_read table _ read, located, valuesRead_read, if_neg unread,
    valuesRead_completions]
  exact read

/-- A session with the device: some writes that are lost, a poll of the status
register that gives the device its place, and exchanges with polls in between. -/
structure Session (base : Dword) (session : List (List Dword)) (ops : List ConfigOp) : Prop where
  split : ∃ lost first rest, ops = lost ++ first :: rest ∧
    (∀ op ∈ lost, op.type = averyOpWrite) ∧ accessAt base first = .read doeRegStatus ∧
    (rest.map (accessAt base)).filter (· ≠ .read doeRegStatus) =
      session.flatMap (exchangeAccesses table)
  answerable : ∀ words ∈ session, Answerable words

variable {table} in
theorem Session.valuesRead_eq {base : Dword} {session : List (List Dword)} {ops : List ConfigOp}
    (host : Session table base session ops) :
    valuesRead base (completions table .unlocated ops) =
      session.flatMap (responseDwords table) := by
  rcases host with ⟨⟨lost, first, rest, rfl, writes, poll, accesses⟩, answerable⟩
  have read : first.type ≠ averyOpWrite := by
    intro write
    rw [accessAt_write write] at poll
    cases poll
  rw [accessAt_read read] at poll
  have place : first.offset = base + doeRegStatus := by
    rw [← Access.read.inj poll, BitVec.add_comm, BitVec.sub_add_cancel]
  rw [valuesRead_lost table writes, valuesRead_unlocated table read place, ← fetched_filter,
    accesses]
  exact fetched_session table rfl answerable

/-- When all is done, every operation has been written back. -/
theorem written_of_finished {ops : List ConfigOp} {turns : List Turn} {system : System}
    (executed : execute (step table) (System.start ops) turns = some system)
    (finished : ∀ turn, step table system turn = none) :
    system.written = completions table .unlocated ops := by
  by_contra missing
  rcases exists_step table ops executed missing with ⟨turn, next, stepped⟩
  rw [finished turn] at stepped
  cases stepped

/-- Some schedule gets all done. -/
theorem exists_finished (ops : List ConfigOp) :
    ∃ turns system, execute (step table) (System.start ops) turns = some system ∧
      ∀ turn, step table system turn = none :=
  execute_maximal fun _ _ executed => (execute_written table ops executed).2

/-- Whatever the schedule, when all is done a host has read the responses to its
requests, in order and nothing else, through `daemon-doe`, `thin-server` and
`doe-emu`. -/
theorem session_relayed {base : Dword} {session : List (List Dword)} {ops : List ConfigOp}
    (host : Session table base session ops) {turns : List Turn} {system : System}
    (executed : execute (step table) (System.start ops) turns = some system)
    (finished : ∀ turn, step table system turn = none) :
    valuesRead base system.written = session.flatMap (responseDwords table) := by
  rw [written_of_finished table executed finished, host.valuesRead_eq]

/-- `AVERY_OP_READ`. -/
def averyOpRead : Dword := 0x14

/-- The operation for an access to the registers at a base. -/
def opAt (base : Dword) : Access → ConfigOp
  | .read reg => { type := averyOpRead, offset := base + reg, value := 0, status := 0 }
  | .write reg val => { type := averyOpWrite, offset := base + reg, value := val, status := 0 }

/-- An abort that is lost, a poll, and a discovery exchange for the first row. -/
def discoveryOps : List ConfigOp :=
  [opAt 0x190 (.write doeRegCtrl doeCtrlAbort), opAt 0x190 (.read doeRegStatus)] ++
    (exchangeAccesses protocols [1, 3, 0]).map (opAt 0x190)

theorem session_discovery : Session protocols 0x190 [[1, 3, 0]] discoveryOps where
  split := by
    refine ⟨[_], _, _, rfl, ?_, ?_, ?_⟩
    · decide
    · decide
    · decide
  answerable := by
    intro words member
    rw [List.mem_singleton.mp member]
    exact ⟨rfl, Or.inl rfl⟩

/-- The host reads the row of discovery itself and the index of the next one. -/
theorem session_relayed_discovery :
    ∃ turns system, execute (step protocols) (System.start discoveryOps) turns = some system ∧
      valuesRead 0x190 system.written = [1, 4, 1, 1] := by
  rcases exists_finished protocols discoveryOps with ⟨turns, system, executed, finished⟩
  refine ⟨turns, system, executed, ?_⟩
  rw [session_relayed protocols session_discovery executed finished]
  decide

/-! ## Recovery -/

/-- Some operations give the device its place: the first of them that is not a write
is at the status register of a base. -/
def Locates (base : Dword) (ops : List ConfigOp) : Prop :=
  ∃ op, ops.find? (fun op => op.type != averyOpWrite) = some op ∧
    op.offset = base + doeRegStatus

/-- The device after some operations. -/
def deviceAfter (device : Device) (ops : List ConfigOp) : Device :=
  (Transducer.specRun (operate table) device ops).1

theorem deviceAfter_cons (device : Device) (op : ConfigOp) (rest : List ConfigOp) :
    deviceAfter table device (op :: rest) = deviceAfter table (operate table device op).1 rest :=
  rfl

theorem completions_append (device : Device) (first second : List ConfigOp) :
    completions table device (first ++ second) =
      completions table device first ++
        completions table (deviceAfter table device first) second := by
  rw [completions, Transducer.specRun_append]
  rfl

/-- A device keeps its place. -/
theorem deviceAfter_located (base : Dword) (mailbox : Mailbox) (ops : List ConfigOp) :
    ∃ final, deviceAfter table (.located base mailbox) ops = .located base final := by
  induction ops generalizing mailbox with
  | nil => exact ⟨mailbox, rfl⟩
  | cons op rest ih =>
      rw [deviceAfter_cons, operate]
      split
      case isTrue => exact ih _
      case isFalse => exact ih _

theorem Locates.deviceAfter {base : Dword} {ops : List ConfigOp} (locates : Locates base ops) :
    ∃ mailbox, deviceAfter table .unlocated ops = .located base mailbox := by
  rcases locates with ⟨first, found, place⟩
  induction ops with
  | nil => cases found
  | cons op rest ih =>
      rw [deviceAfter_cons, operate]
      by_cases write : op.type = averyOpWrite
      · rw [List.find?_cons_of_neg (by simp [write])] at found
        rw [if_pos write]
        exact ih found
      · rw [List.find?_cons_of_pos (by simp [write])] at found
        cases found
        rw [if_neg write, Device.read, place, BitVec.add_sub_cancel]
        exact deviceAfter_located table base .empty rest

/-- An abort empties the mailbox, whatever it holds. -/
theorem write_abort (mailbox : Mailbox) {val : Dword} (abort : hasAbort val = true)
    (only : hasGo val = false) : mailbox.write table doeRegCtrl val = .empty := by
  change mailbox.control table val = .empty
  rw [Mailbox.control, abort, only]
  rfl

/-- Operations that end in a recovered session: anything, an abort, and exchanges with
polls in between.  The device gets its place from what comes before the abort or, if that
is nothing but writes, from a poll right behind it. -/
structure Recovery (base : Dword) (session : List (List Dword)) (history : List ConfigOp)
    (abort : ConfigOp) (rest : List ConfigOp) : Prop where
  locates : Locates base (history ++ rest.take 1)
  aborts : ∃ val, accessAt base abort = .write doeRegCtrl val ∧ hasAbort val = true ∧
    hasGo val = false
  accesses : (rest.map (accessAt base)).filter (· ≠ .read doeRegStatus) =
    session.flatMap (exchangeAccesses table)
  answerable : ∀ words ∈ session, Answerable words

/-- What is completed behind an operation. -/
theorem drop_completions (device : Device) (history : List ConfigOp) (op : ConfigOp)
    (rest : List ConfigOp) :
    (completions table device (history ++ op :: rest)).drop (history.length + 1) =
      completions table (operate table (deviceAfter table device history) op).1 rest := by
  rw [completions_append, ← length_completions table device history, List.drop_length_add_append]
  rfl

/-- A device that has only seen writes has no place. -/
theorem deviceAfter_lost {lost : List ConfigOp} (writes : ∀ op ∈ lost, op.type = averyOpWrite) :
    deviceAfter table .unlocated lost = .unlocated := by
  induction lost with
  | nil => rfl
  | cons op rest ih =>
      rcases List.forall_mem_cons.mp writes with ⟨write, others⟩
      rw [deviceAfter_cons, operate, if_pos write]
      exact ih others

/-- Operations give the device its place, or they are writes and what follows them gives
it. -/
theorem Locates.of_append {base : Dword} {first second : List ConfigOp}
    (locates : Locates base (first ++ second)) :
    Locates base first ∨ (∀ op ∈ first, op.type = averyOpWrite) ∧ Locates base second := by
  rcases locates with ⟨op, found, place⟩
  rw [List.find?_append] at found
  cases here : first.find? (fun op => op.type != averyOpWrite) with
  | some early =>
      rw [here] at found
      cases found
      exact Or.inl ⟨op, here, place⟩
  | none =>
      rw [here] at found
      refine Or.inr ⟨?_, op, found, place⟩
      intro op member
      have write := List.find?_eq_none.mp here op member
      simpa using write

/-- A single operation that gives the device its place. -/
theorem Locates.of_take {base : Dword} {ops : List ConfigOp} (locates : Locates base (ops.take 1)) :
    ∃ first rest, ops = first :: rest ∧ first.type ≠ averyOpWrite ∧
      first.offset = base + doeRegStatus := by
  rcases locates with ⟨op, found, place⟩
  cases ops with
  | nil => cases found
  | cons first rest =>
      have same := List.mem_singleton.mp (List.mem_of_find?_eq_some found)
      have read := List.find?_some found
      rw [same] at read place
      exact ⟨first, rest, rfl, by simpa using read, place⟩

variable {table} in
theorem Recovery.valuesRead_eq {base : Dword} {session : List (List Dword)}
    {history rest : List ConfigOp} {abort : ConfigOp}
    (recovery : Recovery table base session history abort rest) :
    valuesRead base ((completions table .unlocated (history ++ abort :: rest)).drop
      (history.length + 1)) = session.flatMap (responseDwords table) := by
  rcases recovery with ⟨locates, ⟨val, control, aborts, only⟩, accesses, answerable⟩
  have write : abort.type = averyOpWrite := by
    by_contra read
    rw [accessAt_read read] at control
    cases control
  rw [accessAt_write write] at control
  rcases Access.write.inj control with ⟨register, rfl⟩
  rw [drop_completions, operate, if_pos write]
  rcases locates.of_append with located | ⟨writes, behind⟩
  · rcases located.deviceAfter table with ⟨mailbox, located⟩
    rw [located, Device.write, register, write_abort table mailbox aborts only,
      valuesRead_completions, ← fetched_filter, accesses]
    exact fetched_session table rfl answerable
  · -- the abort is lost as well, but so is everything it was to clear
    rcases behind.of_take with ⟨first, more, rfl, read, place⟩
    have poll : accessAt base first = .read doeRegStatus := by
      rw [accessAt_read read, place, BitVec.add_comm, BitVec.add_sub_cancel]
    rw [List.map_cons, poll, List.filter_cons_of_neg (by simp)] at accesses
    rw [deviceAfter_lost table writes, Device.write, valuesRead_unlocated table read place,
      ← fetched_filter, accesses]
    exact fetched_session table rfl answerable

/-- An abort brings the relay back, as long as the emulator is where the host takes it to
be: the first operation that is not a write, before the abort or right behind it, is at the
status register.  Whatever else came before, and whatever the schedule, the exchanges behind
the abort read the responses to their requests and nothing else. -/
theorem recovery_relayed {base : Dword} {session : List (List Dword)}
    {history rest : List ConfigOp} {abort : ConfigOp}
    (recovery : Recovery table base session history abort rest) {turns : List Turn}
    {system : System}
    (executed : execute (step table) (System.start (history ++ abort :: rest)) turns = some system)
    (finished : ∀ turn, step table system turn = none) :
    valuesRead base (system.written.drop (history.length + 1)) =
      session.flatMap (responseDwords table) := by
  rw [written_of_finished table executed finished, recovery.valuesRead_eq]

/-- A poll, a request that is given up, and one that nobody serves. -/
def abandonedOps : List ConfigOp :=
  [.read doeRegStatus, .write doeRegWrite 1, .write doeRegWrite 3, .write doeRegCtrl doeCtrlGo,
    .read doeRegRead, .write doeRegWrite 0xFFFFFFFF].map (opAt 0x190)

theorem recovery_abandoned :
    Recovery protocols 0x190 [[1, 3, 0]] abandonedOps
      (opAt 0x190 (.write doeRegCtrl doeCtrlAbort))
      ((exchangeAccesses protocols [1, 3, 0]).map (opAt 0x190)) where
  locates := ⟨_, rfl, rfl⟩
  aborts := ⟨doeCtrlAbort, rfl, rfl, rfl⟩
  accesses := by decide
  answerable := by
    intro words member
    rw [List.mem_singleton.mp member]
    exact ⟨rfl, Or.inl rfl⟩

theorem recovery_relayed_abandoned :
    ∃ turns system, execute (step protocols) (System.start (abandonedOps ++
        opAt 0x190 (.write doeRegCtrl doeCtrlAbort) ::
          (exchangeAccesses protocols [1, 3, 0]).map (opAt 0x190))) turns = some system ∧
      valuesRead 0x190 (system.written.drop 7) = [1, 4, 1, 1] := by
  rcases exists_finished protocols (abandonedOps ++
    opAt 0x190 (.write doeRegCtrl doeCtrlAbort) ::
      (exchangeAccesses protocols [1, 3, 0]).map (opAt 0x190)) with
    ⟨turns, system, executed, finished⟩
  refine ⟨turns, system, executed, ?_⟩
  have read := recovery_relayed protocols recovery_abandoned executed finished
  rw [show abandonedOps.length + 1 = 7 from rfl] at read
  rw [read]
  decide

end RemoteRootport.Relay
