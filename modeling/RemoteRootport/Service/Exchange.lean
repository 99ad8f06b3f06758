import RemoteRootport.Service.Endpoint

/-!
# One request and its answer

A process that asks another one sends a request and then waits for the answer.  As
long as it asks for nothing else meanwhile, the two streams carry at most these
two records, and whatever the sizes of the pieces it ends up with the answer of
the service.
-/

namespace RemoteRootport.Service

open RemoteRootport.Bytes

/-- Where a process that asks is. -/
inductive Asker where
  | asking (rest : List Byte)
  | awaiting (got : List Byte)
  deriving DecidableEq, Repr

/-- The request has been sent when nothing of it is left. -/
def Asker.sent : List Byte → Asker :=
  afterSend (.awaiting []) .asking

variable {State Request Response Point Move : Type}

/-- The next call of a process that asks, on the streams of the process it asks. -/
def Asker.step (calls : Calls) (size : Nat) (asker : Asker) (port : Port Point) (count : Nat) :
    Option (Asker × Port Point) :=
  match asker with
  | .asking rest =>
      (calls.send.send rest port.inbound count).map fun (rest, inbound) =>
        (.sent rest, { port with inbound })
  | .awaiting got =>
      (calls.recv.recv size got port.outbound count).map fun (got, outbound) =>
        (.awaiting got, { port with outbound })

section

variable {format : Format Request Response} {service : Behaviour State Request Response}
  {step : Port Point → Move → Option (Port Point)} (serving : Serving format service step)

/-- Nothing is under way and the process waits for a request. -/
structure Idle (state : State) (port : Port Point) : Prop where
  inbound : port.inbound = []
  outbound : port.outbound = []
  runs : serving.Runs port.point (.receiving state [])

/-- Steps left once the answer is there. -/
def answerWork (format : Format Request Response) : Nat :=
  2 * format.responses.size

/-- Steps left once the request is there. -/
def serveWork : Nat :=
  serving.bound + 1 + answerWork format

/-- Steps of a whole exchange. -/
def exchangeWork : Nat :=
  2 * format.requests.size + serveWork serving

/-- An exchange that leads to an answer is under way, with a bound on the steps
left. -/
inductive Underway (answer : State × Response) : Asker → Port Point → Nat → Prop where
  | asking {state : State} {request : Request} {point : Point} {rest stream got : List Byte}
      (served : service state request = some answer)
      (transit : InTransit (format.requests.encode request) rest stream got)
      (unfinished : got.length < format.requests.size)
      (runs : serving.Runs point (.receiving state got)) :
      Underway answer (.sent rest) ⟨point, stream, []⟩
        (rest.length + (format.requests.size - got.length) + serveWork serving)
  | working {point : Point} {work : Nat} (runs : serving.Runs point (.working answer work)) :
      Underway answer (.awaiting []) ⟨point, [], []⟩ (work + 1 + answerWork format)
  | answering {point : Point} {rest stream got : List Byte}
      (transit : InTransit (format.responses.encode answer.2) rest stream got)
      (unfinished : got.length < format.responses.size)
      (runs : serving.Runs point (.sent answer.1 rest)) :
      Underway answer (.awaiting got) ⟨point, [], stream⟩
        (rest.length + (format.responses.size - got.length))

variable {serving} {state : State} {answer : State × Response} {port : Port Point}
  {asker : Asker} {work : Nat}

/-! ## Between two exchanges -/

/-- A process that waits for a request cannot go on without one. -/
theorem Idle.blocked (idle : Idle serving state port) {move : Move} {next : Port Point}
    (stepped : step port move = some next) : False := by
  rcases serving.receive idle.runs stepped with ⟨count, got, received, -⟩
  rw [idle.inbound, recvSome_nil] at received
  cases received

/-- An exchange begins with the whole request still to be sent. -/
theorem Idle.begin (idle : Idle serving state port) {request : Request}
    (served : service state request = some answer) :
    Underway serving answer (.asking (format.requests.encode request)) port
      (exchangeWork serving) := by
  rcases port with ⟨point, inbound, outbound⟩
  rcases idle with ⟨rfl, rfl, runs⟩
  have began : Underway serving answer _ _ _ :=
    .asking served (InTransit.start (format.requests.encode request)) format.requests_pos runs
  have unsent := format.requests.encode_ne_nil format.requests_pos request
  rw [Asker.sent, afterSend_of_ne_nil _ _ unsent, format.requests.length_encode, List.length_nil,
    Nat.sub_zero, ← Nat.two_mul] at began
  exact began

/-! ## One step -/

/-- What the process that asks has so far is not the whole answer. -/
theorem Underway.unfinished {got : List Byte}
    (underway : Underway serving answer (.awaiting got) port work) :
    got.length < format.responses.size := by
  generalize awaiting : Asker.awaiting got = asker at underway
  cases underway with
  | @asking state request point rest stream received served transit unfinished runs =>
      cases rest with
      | nil =>
          cases awaiting
          exact format.responses_pos
      | cons byte rest => cases awaiting
  | working runs =>
      cases awaiting
      exact format.responses_pos
  | answering transit unfinished runs =>
      cases awaiting
      exact unfinished

/-- A request that has been taken is worked on or being answered. -/
theorem Underway.of_took {point : Point} {limit : Nat}
    (took : Took format serving.Runs point answer limit) :
    ∃ work, work < limit + 1 + answerWork format ∧
      Underway serving answer (.awaiting []) ⟨point, [], []⟩ work := by
  rcases took with ⟨work, less, runs⟩ | runs
  · exact ⟨work + 1 + answerWork format, by omega, .working runs⟩
  · have length := format.responses.length_encode answer.2
    have unsent := format.responses.encode_ne_nil format.responses_pos answer.2
    rw [← Phase.sent_of_ne_nil _ unsent] at runs
    refine ⟨_, ?_, .answering (InTransit.start _) format.responses_pos runs⟩
    rw [length, List.length_nil, answerWork]
    omega

/-- A step of the process that asks gets on with the exchange or ends it. -/
theorem Underway.ask {calls : Calls} {count : Nat} {outcome : Asker × Port Point}
    (underway : Underway serving answer asker port work)
    (stepped : asker.step calls format.responses.size port count = some outcome) :
    (∃ less, less < work ∧ Underway serving answer outcome.1 outcome.2 less) ∨
      outcome.1 = .awaiting (format.responses.encode answer.2) ∧
        Idle serving answer.1 outcome.2 := by
  cases underway with
  | @asking state request point rest stream got served transit unfinished runs =>
      cases rest with
      | nil =>
          rcases Option.map_eq_some_iff.mp stepped with ⟨left, received, -⟩
          have blocked := Mode.recvSome_of_recv received
          rw [recvSome_nil] at blocked
          cases blocked
      | cons byte rest =>
          rcases Option.map_eq_some_iff.mp stepped with ⟨left, sent, rfl⟩
          rcases transit.send (congrArg (Option.map id) (Mode.sendSome_of_send sent)) with
            ⟨rest', stream', same, moved, fewer⟩
          cases same
          exact Or.inl ⟨rest'.length + (format.requests.size - got.length) + serveWork serving,
            by omega, .asking served moved unfinished runs⟩
  | working runs =>
      rcases Option.map_eq_some_iff.mp stepped with ⟨left, received, -⟩
      have blocked := Mode.recvSome_of_recv received
      rw [recvSome_nil] at blocked
      cases blocked
  | @answering point rest stream got transit unfinished runs =>
      rcases Option.map_eq_some_iff.mp stepped with ⟨left, received, rfl⟩
      rcases transit.recv (congrArg (Option.map id) (Mode.recvSome_of_recv received)) with
        ⟨got', stream', same, moved, more, fits⟩
      cases same
      by_cases full : got'.length = format.responses.size
      · rcases moved.complete (format.responses.length_encode _) full with ⟨rfl, rfl, rfl⟩
        exact Or.inr ⟨rfl, rfl, rfl, runs⟩
      · exact Or.inl ⟨rest.length + (format.responses.size - got'.length), by omega,
          .answering moved (by omega) runs⟩

/-- A step of the process that is asked gets on with the exchange. -/
theorem Underway.serve {move : Move} {next : Port Point}
    (underway : Underway serving answer asker port work)
    (stepped : step port move = some next) :
    ∃ less, less < work ∧ Underway serving answer asker next less := by
  cases underway with
  | @asking state request point rest stream got served transit unfinished runs =>
      rcases serving.receive runs stepped with ⟨count, got', received, quiet, waiting, taken⟩
      rcases transit.recv (congrArg (Option.map id) received) with
        ⟨_, _, same, moved, more, fits⟩
      cases same
      rcases next with ⟨after, inbound, outbound⟩
      cases quiet
      by_cases full : got'.length = format.requests.size
      · rcases moved.complete (format.requests.length_encode _) full with ⟨rfl, rfl, rfl⟩
        rcases Underway.of_took (taken request answer rfl served) with ⟨less, bound, onward⟩
        refine ⟨less, ?_, onward⟩
        rw [serveWork]
        omega
      · exact ⟨rest.length + (format.requests.size - got'.length) + serveWork serving, by omega,
          .asking served moved (by omega) (waiting (by omega))⟩
  | @working point work runs =>
      rcases serving.work runs stepped with ⟨inbound, outbound, took⟩
      rcases next with ⟨after, _, _⟩
      cases inbound
      cases outbound
      exact Underway.of_took took
  | @answering point rest stream got transit unfinished runs =>
      cases rest with
      | nil =>
          rcases serving.receive runs stepped with ⟨count, got', received, -⟩
          rw [recvSome_nil] at received
          cases received
      | cons byte rest =>
          rcases serving.send runs stepped with ⟨count, rest', sent, quiet, later⟩
          rcases transit.send (congrArg (Option.map id) sent) with ⟨_, _, same, moved, fewer⟩
          cases same
          rcases next with ⟨after, inbound, outbound⟩
          cases quiet
          exact ⟨rest'.length + (format.responses.size - got.length), by omega,
            .answering moved unfinished later⟩

/-- One of the two can always go on with an exchange. -/
theorem Underway.enabled (calls : Calls)
    (underway : Underway serving answer asker port work) :
    (∃ count outcome, asker.step calls format.responses.size port count = some outcome) ∨
      ∃ move next, step port move = some next := by
  cases underway with
  | @asking state request point rest stream got served transit unfinished runs =>
      cases rest with
      | nil =>
          have length := transit.length
          rw [format.requests.length_encode, List.length_nil] at length
          exact Or.inr (serving.receives runs unfinished (Nat.le_of_eq length.symm))
      | cons byte rest =>
          rcases calls.send.send_enabled stream (List.cons_ne_nil byte rest) with
            ⟨count, left, sent⟩
          exact Or.inl ⟨count, _, congrArg (Option.map _) sent⟩
  | working runs => exact Or.inr (serving.works runs)
  | @answering point rest stream got transit unfinished runs =>
      cases rest with
      | nil =>
          have length := transit.length
          rw [format.responses.length_encode, List.length_nil] at length
          rcases calls.recv.recv_enabled unfinished (Nat.le_of_eq length.symm) with
            ⟨count, left, received⟩
          exact Or.inl ⟨count, _, congrArg (Option.map _) received⟩
      | cons byte rest => exact Or.inr (serving.sends runs (List.cons_ne_nil byte rest))

end

end RemoteRootport.Service
