import RemoteRootport.Service.Exchange

/-!
# Processes in the middle

A relay receives a request, asks another process something it makes of the request,
and makes its own answer of the answer it gets.  Put in front of a process that
provides a service it provides the service translated, so chains of relays of any
length are accounted for one relay at a time.
-/

namespace RemoteRootport.Service

open RemoteRootport.Bytes

variable {Local Request Response Inner Result State Point Move : Type}

/-- What a relay makes of requests, and of a request and the answer to its own. -/
structure Relay (Local Request Response Inner Result : Type) where
  translate : Local → Request → Local × Inner
  complete : Request → Result → Response

/-- The service of a relay in front of a service. -/
def Relay.over (relay : Relay Local Request Response Inner Result)
    (service : Behaviour State Inner Result) :
    Behaviour (Local × State) Request Response :=
  fun (locals, state) request =>
    let (locals, inner) := relay.translate locals request
    (service state inner).map fun (state, result) =>
      ((locals, state), relay.complete request result)

/-- Where in its loop a relay is. -/
inductive RelayStage (Request : Type) where
  | receiving (got : List Byte)
  | exchanging (request : Request) (asker : Asker)
  | sending (rest : List Byte)
  deriving DecidableEq, Repr

/-- A relay together with the process behind it. -/
structure RelayPoint (Local Request Point : Type) where
  stage : RelayStage Request
  locals : Local
  port : Port Point
  deriving DecidableEq, Repr

/-- Whether the relay goes on or the process behind it. -/
inductive Hop (Move : Type) where
  | relay (count : Nat)
  | beyond (move : Move)
  deriving DecidableEq, Repr

/-- The answer has been sent when nothing is left. -/
def RelayStage.sent : List Byte → RelayStage Request :=
  afterSend (.receiving []) .sending

section

variable (relay : Relay Local Request Response Inner Result)
  (outer : Format Request Response) (inner : Format Inner Result)

/-- The relay has some bytes of a request; a complete one it translates. -/
def RelayPoint.received (point : RelayPoint Local Request Point) (got : List Byte) :
    RelayPoint Local Request Point :=
  if got.length = outer.requests.size then
    let request := outer.requests.decode got
    let (locals, inside) := relay.translate point.locals request
    { point with locals, stage := .exchanging request (.asking (inner.requests.encode inside)) }
  else
    { point with stage := .receiving got }

/-- The relay has made a call of its own exchange; a complete answer it passes
on. -/
def RelayPoint.heard (point : RelayPoint Local Request Point) (request : Request) :
    Asker × Port Point → RelayPoint Local Request Point
  | (.asking rest, port) => { point with stage := .exchanging request (.asking rest), port }
  | (.awaiting got, port) =>
      if got.length = inner.responses.size then
        let response := relay.complete request (inner.responses.decode got)
        { point with stage := .sending (outer.responses.encode response), port }
      else
        { point with stage := .exchanging request (.awaiting got), port }

theorem RelayPoint.heard_sent (point : RelayPoint Local Request Point) (request : Request)
    (rest : List Byte) (port : Port Point) :
    point.heard relay outer inner request (.sent rest, port) =
      { point with stage := .exchanging request (.sent rest), port } := by
  cases rest with
  | nil => exact if_neg (Nat.ne_of_lt inner.responses_pos)
  | cons byte rest => rfl

/-- The calls of a relay that moves every record in pieces. -/
def relayCalls : Calls := ⟨.pieces, .pieces⟩

/-- The next step of a relay or of the process behind it. -/
def relayStep (step : Port Point → Move → Option (Port Point))
    (port : Port (RelayPoint Local Request Point)) : Hop Move → Option (Port (RelayPoint Local Request Point))
  | .relay count =>
      match port.point.stage with
      | .receiving got =>
          (recvSome outer.requests.size got port.inbound count).map fun (got, inbound) =>
            { port with inbound, point := port.point.received relay outer inner got }
      | .exchanging request asker =>
          (asker.step relayCalls inner.responses.size port.point.port count).map fun outcome =>
            { port with point := port.point.heard relay outer inner request outcome }
      | .sending rest =>
          (sendSome rest port.outbound count).map fun (rest, outbound) =>
            { port with outbound, point := { port.point with stage := .sent rest } }
  | .beyond move =>
      (step port.point.port move).map fun inside =>
        { port with point := { port.point with port := inside } }

end

variable (relay : Relay Local Request Response Inner Result)
  {outer : Format Request Response} {inner : Format Inner Result}
  {service : Behaviour State Inner Result} {step : Port Point → Move → Option (Port Point)}
  (serving : Serving inner service step)

/-- Where a relay is: the process behind it is idle except while the relay works on
a request. -/
inductive RelayRuns :
    RelayPoint Local Request Point → Phase (Local × State) Response → Prop where
  | receiving {locals : Local} {state : State} {port : Port Point} {got : List Byte}
      (idle : Idle serving state port) :
      RelayRuns ⟨.receiving got, locals, port⟩ (.receiving (locals, state) got)
  | working {locals : Local} {request : Request} {result : State × Result} {asker : Asker}
      {port : Port Point} {work : Nat} (underway : Underway serving result asker port work) :
      RelayRuns ⟨.exchanging request asker, locals, port⟩
        (.working ((locals, result.1), relay.complete request result.2) work)
  | sending {locals : Local} {state : State} {port : Port Point} {rest : List Byte}
      (idle : Idle serving state port) :
      RelayRuns ⟨.sending rest, locals, port⟩ (.sending (locals, state) rest)

/-- The answer of a relay is made of the answer it gets. -/
theorem Relay.over_eq_some {locals : Local} {state : State} {request : Request}
    {answer : (Local × State) × Response}
    (answered : relay.over service (locals, state) request = some answer) :
    ∃ result, service state (relay.translate locals request).2 = some result ∧
      answer = (((relay.translate locals request).1, result.1),
        relay.complete request result.2) := by
  rcases Option.map_eq_some_iff.mp answered with ⟨result, served, same⟩
  exact ⟨result, served, same.symm⟩

variable {relay serving}

theorem RelayRuns.receive {port next : Port (RelayPoint Local Request Point)} {hop : Hop Move}
    {state : Local × State} {got : List Byte}
    (runs : RelayRuns relay serving port.point (.receiving state got))
    (stepped : relayStep relay outer inner step port hop = some next) :
    ∃ count got',
      recvSome outer.requests.size got port.inbound count = some (got', next.inbound) ∧
      next.outbound = port.outbound ∧
      (got'.length < outer.requests.size →
        RelayRuns relay serving next.point (.receiving state got')) ∧
      ∀ request answer, got' = outer.requests.encode request →
        relay.over service state request = some answer →
        Took outer (RelayRuns relay serving) next.point answer (exchangeWork serving + 1) := by
  rcases port with ⟨point, inbound, outbound⟩
  cases runs with
  | @receiving locals state inside got idle =>
      cases hop with
      | beyond move =>
          rcases Option.map_eq_some_iff.mp stepped with ⟨after, moved, -⟩
          exact (idle.blocked moved).elim
      | relay count =>
          rcases Option.map_eq_some_iff.mp stepped with ⟨⟨got', inbound'⟩, received, rfl⟩
          refine ⟨count, got', received, rfl, ?_, ?_⟩
          · intro unfinished
            change RelayRuns relay serving (RelayPoint.received _ _ _ _ _) _
            rw [RelayPoint.received, if_neg (Nat.ne_of_lt unfinished)]
            exact .receiving idle
          · intro request answer whole answered
            rcases relay.over_eq_some answered with ⟨result, served, rfl⟩
            refine Or.inl ⟨exchangeWork serving, Nat.lt_succ_self _, ?_⟩
            change RelayRuns relay serving (RelayPoint.received _ _ _ _ _) _
            rw [RelayPoint.received, whole, if_pos (outer.requests.length_encode request),
              Layout.decode_encode]
            exact .working (idle.begin served)

theorem RelayRuns.work {port next : Port (RelayPoint Local Request Point)} {hop : Hop Move}
    {answer : (Local × State) × Response} {work : Nat}
    (runs : RelayRuns relay serving port.point (.working answer work))
    (stepped : relayStep relay outer inner step port hop = some next) :
    next.inbound = port.inbound ∧ next.outbound = port.outbound ∧
      Took outer (RelayRuns relay serving) next.point answer work := by
  rcases port with ⟨point, inbound, outbound⟩
  cases runs with
  | @working locals request result asker inside work underway =>
      cases hop with
      | beyond move =>
          rcases Option.map_eq_some_iff.mp stepped with ⟨after, moved, rfl⟩
          rcases underway.serve moved with ⟨less, lower, onward⟩
          exact ⟨rfl, rfl, Or.inl ⟨less, lower, .working onward⟩⟩
      | relay count =>
          rcases Option.map_eq_some_iff.mp stepped with ⟨⟨asker', inside'⟩, asked, rfl⟩
          refine ⟨rfl, rfl, ?_⟩
          change Took outer _ (RelayPoint.heard _ _ _ _ _ _) _ _
          rcases underway.ask asked with ⟨less, lower, onward⟩ | ⟨same, idle⟩
          · refine Or.inl ⟨less, lower, ?_⟩
            cases asker' with
            | asking rest => exact .working onward
            | awaiting got =>
                rw [RelayPoint.heard, if_neg (Nat.ne_of_lt onward.unfinished)]
                exact .working onward
          · right
            cases same
            rw [RelayPoint.heard, if_pos (inner.responses.length_encode _), Layout.decode_encode]
            exact .sending idle

theorem RelayRuns.send {port next : Port (RelayPoint Local Request Point)} {hop : Hop Move}
    {state : Local × State} {rest : List Byte}
    (runs : RelayRuns relay serving port.point (.sending state rest))
    (stepped : relayStep relay outer inner step port hop = some next) :
    ∃ count rest', sendSome rest port.outbound count = some (rest', next.outbound) ∧
      next.inbound = port.inbound ∧ RelayRuns relay serving next.point (.sent state rest') := by
  rcases port with ⟨point, inbound, outbound⟩
  cases runs with
  | @sending locals state inside rest idle =>
      cases hop with
      | beyond move =>
          rcases Option.map_eq_some_iff.mp stepped with ⟨after, moved, -⟩
          exact (idle.blocked moved).elim
      | relay count =>
          rcases Option.map_eq_some_iff.mp stepped with ⟨⟨rest', outbound'⟩, sent, rfl⟩
          refine ⟨count, rest', sent, rfl, ?_⟩
          cases rest' with
          | nil => exact .receiving idle
          | cons byte rest' => exact .sending idle

/-- A relay in front of a process that provides a service provides the service
translated. -/
def relaying (relay : Relay Local Request Response Inner Result)
    (outer : Format Request Response) (serving : Serving inner service step) :
    Serving outer (relay.over service) (relayStep relay outer inner step) where
  Runs := RelayRuns relay serving
  bound := exchangeWork serving + 1
  receive := RelayRuns.receive
  work := RelayRuns.work
  send := RelayRuns.send
  receives := by
    intro port state got runs unfinished arrived
    rcases port with ⟨point, inbound, outbound⟩
    cases runs with
    | receiving idle =>
        rcases Mode.recv_enabled .pieces unfinished arrived with ⟨count, left, received⟩
        exact ⟨.relay count, _, congrArg (Option.map _) (Mode.recvSome_of_recv received)⟩
  works := by
    intro port answer work runs
    rcases port with ⟨point, inbound, outbound⟩
    cases runs with
    | working underway =>
        rcases underway.enabled relayCalls with ⟨count, outcome, asked⟩ | ⟨move, after, moved⟩
        · exact ⟨.relay count, _, congrArg (Option.map _) asked⟩
        · exact ⟨.beyond move, _, congrArg (Option.map _) moved⟩
  sends := by
    intro port state rest runs unsent
    rcases port with ⟨point, inbound, outbound⟩
    cases runs with
    | sending idle =>
        rcases Mode.send_enabled .pieces outbound unsent with ⟨count, left, sent⟩
        exact ⟨.relay count, _, congrArg (Option.map _) (Mode.sendSome_of_send sent)⟩

/-- A relay is idle when it waits for a request and the process behind it does. -/
theorem idle_relaying {locals : Local} {state : State} {port : Port Point}
    (outer : Format Request Response) (idle : Idle serving state port) :
    Idle (relaying relay outer serving) (locals, state)
      ⟨⟨.receiving [], locals, port⟩, [], []⟩ :=
  ⟨rfl, rfl, .receiving idle⟩

end RemoteRootport.Service
