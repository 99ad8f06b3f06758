import RemoteRootport.Machine.Schedule
import RemoteRootport.Service.Endpoint

/-!
# Processes that answer on their own

A responder receives a request, computes the answer and sends it, over and over.
A request its service promises nothing about ends its loop.
-/

namespace RemoteRootport.Service

open RemoteRootport.Bytes
open RemoteRootport.Machine

variable {State Request Response : Type}

/-- Where in its loop a responder is; `stopped` once it has left it. -/
inductive Loop where
  | receiving (got : List Byte)
  | sending (rest : List Byte)
  | stopped
  deriving DecidableEq, Repr

/-- The answer has been sent when nothing is left. -/
def Loop.sent : List Byte → Loop :=
  afterSend (.receiving []) .sending

/-- A responder with what it keeps between two requests. -/
structure Responder (State : Type) where
  loop : Loop
  state : State
  deriving DecidableEq, Repr

section

variable (format : Format Request Response) (calls : Calls)
  (service : Behaviour State Request Response)

/-- The responder has some bytes of a request; a complete one it answers. -/
def Responder.received (responder : Responder State) (got : List Byte) : Responder State :=
  if got.length = format.requests.size then
    match service responder.state (format.requests.decode got) with
    | some (state, response) => { state, loop := .sending (format.responses.encode response) }
    | none => { responder with loop := .stopped }
  else
    { responder with loop := .receiving got }

/-- The next call of a responder. -/
def respondStep (port : Port (Responder State)) (count : Nat) : Option (Port (Responder State)) :=
  match port.point.loop with
  | .receiving got =>
      (calls.recv.recv format.requests.size got port.inbound count).map fun (got, inbound) =>
        { port with inbound, point := port.point.received format service got }
  | .sending rest =>
      (calls.send.send rest port.outbound count).map fun (rest, outbound) =>
        { port with outbound, point := { port.point with loop := .sent rest } }
  | .stopped => none

theorem Responder.received_part (loop : Loop) (state : State) {got : List Byte}
    (unfinished : got.length < format.requests.size) :
    Responder.received format service ⟨loop, state⟩ got = ⟨.receiving got, state⟩ := by
  rw [received, if_neg (Nat.ne_of_lt unfinished)]

theorem Responder.received_whole (loop : Loop) {state : State} {request : Request}
    {answer : State × Response} (answered : service state request = some answer) :
    Responder.received format service ⟨loop, state⟩ (format.requests.encode request) =
      ⟨.sending (format.responses.encode answer.2), answer.1⟩ := by
  rw [received, if_pos (format.requests.length_encode request), Layout.decode_encode, answered]

/-- A request that has arrived is received, answered and gone in two calls. -/
theorem execute_respondStep {state : State} {request : Request} {answer : State × Response}
    (answered : service state request = some answer) (more sent : List Byte) :
    execute (respondStep format calls service)
        ⟨⟨.receiving [], state⟩, format.requests.encode request ++ more, sent⟩
        [format.requests.size, format.responses.size] =
      some ⟨⟨.receiving [], answer.1⟩, more, sent ++ format.responses.encode answer.2⟩ := by
  have length := format.requests.length_encode request
  have taken : calls.recv.recv format.requests.size [] (format.requests.encode request ++ more)
      format.requests.size = some (format.requests.encode request, more) := by
    rw [Mode.recv, List.length_nil, Nat.sub_zero, if_pos (calls.recv.allows_self _), recvSome,
      if_pos ⟨format.requests_pos, by rw [List.length_append]; omega, by simp⟩,
      List.take_left' length, List.drop_left' length, List.nil_append]
  have gone : calls.send.send (format.responses.encode answer.2) sent format.responses.size =
      some ([], sent ++ format.responses.encode answer.2) := by
    rw [Mode.send, format.responses.length_encode, if_pos (calls.send.allows_self _), sendSome,
      format.responses.length_encode, if_pos ⟨format.responses_pos, Nat.le_refl _⟩,
      List.drop_of_length_le (Nat.le_of_eq (format.responses.length_encode _)),
      List.take_of_length_le (Nat.le_of_eq (format.responses.length_encode _))]
  rw [execute, respondStep]
  simp only [taken, Option.map_some]
  rw [Responder.received_whole format service _ answered, execute, respondStep]
  simp only [gone, Option.map_some]
  rfl

end

/-- Where a responder is. -/
inductive Responds : Responder State → Phase State Response → Prop where
  | receiving {state : State} {got : List Byte} :
      Responds ⟨.receiving got, state⟩ (.receiving state got)
  | sending {state : State} {rest : List Byte} :
      Responds ⟨.sending rest, state⟩ (.sending state rest)

theorem not_responds_working {responder : Responder State} {answer : State × Response}
    {work : Nat} : ¬Responds responder (.working answer work) := by
  intro runs
  cases runs

/-- A responder provides the service it computes. -/
def responding (format : Format Request Response) (calls : Calls)
    (service : Behaviour State Request Response) :
    Serving format service (respondStep format calls service) where
  Runs := Responds
  bound := 0
  receive := by
    intro port next count state got runs stepped
    rcases port with ⟨point, inbound, outbound⟩
    cases runs with
    | receiving =>
        rcases Option.map_eq_some_iff.mp stepped with ⟨⟨got', inbound'⟩, received, rfl⟩
        refine ⟨count, got', Mode.recvSome_of_recv received, rfl, ?_, ?_⟩
        · intro unfinished
          change Responds (Responder.received _ _ _ _) _
          rw [Responder.received_part format service _ _ unfinished]
          exact .receiving
        · intro request answer whole answered
          right
          change Responds (Responder.received _ _ _ _) _
          rw [whole, Responder.received_whole format service _ answered]
          exact .sending
  work := by
    intro port next move answer work runs
    exact absurd runs not_responds_working
  send := by
    intro port next count state rest runs stepped
    rcases port with ⟨point, inbound, outbound⟩
    cases runs with
    | sending =>
        rcases Option.map_eq_some_iff.mp stepped with ⟨⟨rest', outbound'⟩, sent, rfl⟩
        refine ⟨count, rest', Mode.sendSome_of_send sent, rfl, ?_⟩
        cases rest' with
        | nil => exact .receiving
        | cons byte rest' => exact .sending
  receives := by
    intro port state got runs unfinished arrived
    rcases port with ⟨point, inbound, outbound⟩
    cases runs with
    | receiving =>
        rcases calls.recv.recv_enabled unfinished arrived with ⟨count, left, received⟩
        exact ⟨count, _, congrArg (Option.map _) received⟩
  works := by
    intro port answer work runs
    exact absurd runs not_responds_working
  sends := by
    intro port state rest runs unsent
    rcases port with ⟨point, inbound, outbound⟩
    cases runs with
    | sending =>
        rcases calls.send.send_enabled outbound unsent with ⟨count, left, sent⟩
        exact ⟨count, _, congrArg (Option.map _) sent⟩

end RemoteRootport.Service
