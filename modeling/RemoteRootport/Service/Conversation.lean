import RemoteRootport.Machine.Schedule
import RemoteRootport.Service.Exchange

/-!
# A client and the process it asks

A client takes one job after the other.  For a job it sends a request to the other
process, waits for the answer and delivers an output; some jobs need no request,
and there may be jobs it never comes back from.  `converse` is what the client
would deliver if the service were a function it could call.  Under every schedule
of the two processes, whatever the pieces their records are cut into, the client
delivers exactly this.
-/

namespace RemoteRootport.Service

open RemoteRootport.Bytes
open RemoteRootport.Machine

variable {Local Job Request Response Output State Point Move : Type}

/-- What a client makes of a job and of an answer. -/
structure Client (Local Job Request Response Output : Type) where
  /-- The outer `none` is a job the client never comes back from, the inner one a
  job that needs no request. -/
  take : Local → Job → Option (Local × Option Request)
  put : Local → Response → Local × Output

/-- Where in its loop a client is. -/
inductive Stage (Output : Type) where
  | idle
  | exchanging (asker : Asker)
  | delivering (output : Output)
  deriving DecidableEq, Repr

/-- A client with its jobs, the process it asks and what it has delivered. -/
structure Conversation (Local Job Output Point : Type) where
  pending : List Job
  stage : Stage Output
  locals : Local
  port : Port Point
  delivered : List Output

/-- The client before its first job. -/
def Conversation.start (jobs : List Job) (locals : Local) (port : Port Point) :
    Conversation Local Job Output Point where
  pending := jobs
  stage := .idle
  locals := locals
  port := port
  delivered := []

/-- Which of the two goes on, and how. -/
inductive Turn (Move : Type) where
  | client (count : Nat)
  | server (move : Move)
  deriving DecidableEq, Repr

section

variable (client : Client Local Job Request Response Output) (format : Format Request Response)

/-- The client has made a call of an exchange; a complete answer it makes an output
of. -/
def Conversation.heard (conversation : Conversation Local Job Output Point) :
    Asker × Port Point → Conversation Local Job Output Point
  | (.asking rest, port) => { conversation with stage := .exchanging (.asking rest), port }
  | (.awaiting got, port) =>
      if got.length = format.responses.size then
        let (locals, output) := client.put conversation.locals (format.responses.decode got)
        { conversation with stage := .delivering output, locals, port }
      else
        { conversation with stage := .exchanging (.awaiting got), port }

theorem Conversation.heard_sent (conversation : Conversation Local Job Output Point)
    (rest : List Byte) (port : Port Point) :
    conversation.heard client format (.sent rest, port) =
      { conversation with stage := .exchanging (.sent rest), port } := by
  cases rest with
  | nil => exact if_neg (Nat.ne_of_lt format.responses_pos)
  | cons byte rest => rfl

/-- The next call of the client.  A job it never comes back from stays where it
is. -/
def clientStep (calls : Calls) (conversation : Conversation Local Job Output Point)
    (count : Nat) : Option (Conversation Local Job Output Point) :=
  match conversation.stage with
  | .idle =>
      match conversation.pending with
      | [] => none
      | job :: pending =>
          (client.take conversation.locals job).map fun
            | (locals, none) => { conversation with pending, locals }
            | (locals, some request) =>
                { conversation with
                  pending, locals
                  stage := .exchanging (.asking (format.requests.encode request)) }
  | .exchanging asker =>
      (asker.step calls format.responses.size conversation.port count).map
        (conversation.heard client format)
  | .delivering output =>
      some { conversation with
        stage := .idle
        delivered := conversation.delivered ++ [output] }

def Conversation.step (calls : Calls) (step : Port Point → Move → Option (Port Point))
    (conversation : Conversation Local Job Output Point) :
    Turn Move → Option (Conversation Local Job Output Point)
  | .client count => clientStep client format calls conversation count
  | .server move => (step conversation.port move).map fun port => { conversation with port }

/-- What the client delivers if the service is a function; `none` if it asks for
something the service promises nothing about. -/
def converse (service : Behaviour State Request Response) :
    Local → State → List Job → Option (List Output)
  | _, _, [] => some []
  | locals, state, job :: jobs =>
      match client.take locals job with
      | none => some []
      | some (locals, none) => converse service locals state jobs
      | some (locals, some request) =>
          match service state request with
          | none => none
          | some (state, response) =>
              (converse service (client.put locals response).1 state jobs).map
                ((client.put locals response).2 :: ·)

variable {client} {service : Behaviour State Request Response} {locals next : Local}
  {state : State} {job : Job} (jobs : List Job)

theorem converse_stop (taken : client.take locals job = none) :
    converse client service locals state (job :: jobs) = some [] := by
  rw [converse, taken]

theorem converse_skip (taken : client.take locals job = some (next, none)) :
    converse client service locals state (job :: jobs) =
      converse client service next state jobs := by
  rw [converse, taken]

theorem converse_ask {request : Request} {answer : State × Response}
    (taken : client.take locals job = some (next, some request))
    (served : service state request = some answer) :
    converse client service locals state (job :: jobs) =
      (converse client service (client.put next answer.2).1 answer.1 jobs).map
        ((client.put next answer.2).2 :: ·) := by
  rw [converse, taken]
  simp only [served]

variable (client)

/-- Each step of one service is matched by one of the other with the same
answer. -/
def Simulates {Other : Type} (related : State → Other → Prop)
    (service : Behaviour State Request Response) (other : Behaviour Other Request Response) :
    Prop :=
  ∀ state twin request, related state twin →
    ∃ next after response, service state request = some (next, response) ∧
      other twin request = some (after, response) ∧ related next after

/-- A client cannot tell a service from one that simulates it. -/
theorem converse_of_simulates {Other : Type} {related : State → Other → Prop}
    {other : Behaviour Other Request Response}
    (simulates : Simulates related service other) {twin : Other}
    (start : related state twin) (locals : Local) (jobs : List Job) :
    converse client service locals state jobs = converse client other locals twin jobs := by
  induction jobs generalizing locals state twin with
  | nil => rfl
  | cons job jobs ih =>
      cases taken : client.take locals job with
      | none => rw [converse_stop jobs taken, converse_stop jobs taken]
      | some outcome =>
          rcases outcome with ⟨next, asked⟩
          cases asked with
          | none =>
              rw [converse_skip jobs taken, converse_skip jobs taken]
              exact ih start next
          | some request =>
              rcases simulates state twin request start with
                ⟨after, likewise, response, answered, same, kept⟩
              rw [converse_ask jobs taken answered, converse_ask jobs taken same, ih kept]

end

/-! ## The invariant -/

section

variable (client : Client Local Job Request Response Output) {format : Format Request Response}
  {service : Behaviour State Request Response} {step : Port Point → Move → Option (Port Point)}
  (serving : Serving format service step)

/-- Steps for a job the client has not taken yet. -/
def jobWork : Nat :=
  exchangeWork serving + 3

/-- What has been delivered and what is still to come are the outputs, with a bound
on the steps left. -/
inductive Converses (outputs : List Output) :
    Conversation Local Job Output Point → Nat → Prop where
  | idle {pending : List Job} {locals : Local} {state : State} {port : Port Point}
      {delivered rest : List Output} (idle : Idle serving state port)
      (later : converse client service locals state pending = some rest)
      (split : delivered ++ rest = outputs) :
      Converses outputs ⟨pending, .idle, locals, port, delivered⟩
        (pending.length * jobWork serving)
  | exchanging {pending : List Job} {locals : Local} {answer : State × Response}
      {asker : Asker} {port : Port Point} {work : Nat} {delivered rest : List Output}
      (underway : Underway serving answer asker port work)
      (later : converse client service (client.put locals answer.2).1 answer.1 pending = some rest)
      (split : delivered ++ (client.put locals answer.2).2 :: rest = outputs) :
      Converses outputs ⟨pending, .exchanging asker, locals, port, delivered⟩
        (pending.length * jobWork serving + (work + 2))
  | delivering {pending : List Job} {locals : Local} {state : State} {output : Output}
      {port : Port Point} {delivered rest : List Output} (idle : Idle serving state port)
      (later : converse client service locals state pending = some rest)
      (split : delivered ++ output :: rest = outputs) :
      Converses outputs ⟨pending, .delivering output, locals, port, delivered⟩
        (pending.length * jobWork serving + 1)

variable {client serving} {outputs : List Output}
  {conversation next : Conversation Local Job Output Point} {work : Nat}

theorem Converses.clientStep {calls : Calls} {count : Nat}
    (converses : Converses client serving outputs conversation work)
    (stepped : clientStep client format calls conversation count = some next) :
    ∃ less, less < work ∧ Converses client serving outputs next less := by
  cases converses with
  | @idle pending locals state port delivered rest idle later split =>
      cases pending with
      | nil => cases stepped
      | cons job pending =>
          have more : (job :: pending).length * jobWork serving =
              pending.length * jobWork serving + jobWork serving := Nat.succ_mul _ _
          rcases Option.map_eq_some_iff.mp stepped with ⟨⟨after, asked⟩, taken, rfl⟩
          cases asked with
          | none =>
              rw [converse_skip pending taken] at later
              refine ⟨pending.length * jobWork serving, ?_, .idle idle later split⟩
              rw [more, jobWork]
              omega
          | some request =>
              cases served : service state request with
              | none =>
                  rw [converse, taken] at later
                  simp only [served, reduceCtorEq] at later
              | some answer =>
                  rw [converse_ask pending taken served] at later
                  rcases Option.map_eq_some_iff.mp later with ⟨rest, conversed, rfl⟩
                  refine ⟨_, ?_, .exchanging (idle.begin served) conversed split⟩
                  rw [more, jobWork]
                  omega
  | @exchanging pending locals answer asker port work delivered rest underway later split =>
      rcases Option.map_eq_some_iff.mp stepped with ⟨⟨asker', port'⟩, asked, rfl⟩
      rcases underway.ask asked with ⟨less, lower, onward⟩ | ⟨same, idle⟩
      · refine ⟨pending.length * jobWork serving + (less + 2), by omega, ?_⟩
        cases asker' with
        | asking rest => exact .exchanging onward later split
        | awaiting got =>
            rw [Conversation.heard, if_neg (Nat.ne_of_lt onward.unfinished)]
            exact .exchanging onward later split
      · refine ⟨pending.length * jobWork serving + 1, by omega, ?_⟩
        cases same
        rw [Conversation.heard, if_pos (format.responses.length_encode _), Layout.decode_encode]
        exact .delivering idle later split
  | @delivering pending locals state output port delivered rest idle later split =>
      cases stepped
      refine ⟨_, Nat.lt_succ_self _, .idle idle later ?_⟩
      rw [List.append_assoc]
      exact split

theorem Converses.serverStep {move : Move} {port : Port Point}
    (converses : Converses client serving outputs conversation work)
    (stepped : step conversation.port move = some port) :
    ∃ less, less < work ∧ Converses client serving outputs { conversation with port } less := by
  cases converses with
  | idle idle later split => exact (idle.blocked stepped).elim
  | @exchanging pending locals answer asker port work delivered rest underway later split =>
      rcases underway.serve stepped with ⟨less, lower, onward⟩
      exact ⟨pending.length * jobWork serving + (less + 2), by omega,
        .exchanging onward later split⟩
  | delivering idle later split => exact (idle.blocked stepped).elim

theorem Converses.turn {calls : Calls} {turn : Turn Move}
    (converses : Converses client serving outputs conversation work)
    (stepped : conversation.step client format calls step turn = some next) :
    ∃ less, less < work ∧ Converses client serving outputs next less := by
  cases turn with
  | client count => exact converses.clientStep stepped
  | server move =>
      rcases Option.map_eq_some_iff.mp stepped with ⟨port, moved, rfl⟩
      exact converses.serverStep moved

/-- What has been delivered is the beginning of the outputs. -/
theorem Converses.delivered_prefix
    (converses : Converses client serving outputs conversation work) :
    conversation.delivered <+: outputs := by
  cases converses with
  | idle idle later split => exact ⟨_, split⟩
  | exchanging underway later split => exact ⟨_, split⟩
  | delivering idle later split => exact ⟨_, split⟩

/-- As long as an output is missing one of the two can go on. -/
theorem Converses.enabled (calls : Calls)
    (converses : Converses client serving outputs conversation work)
    (missing : conversation.delivered ≠ outputs) :
    ∃ turn next, conversation.step client format calls step turn = some next := by
  cases converses with
  | @idle pending locals state port delivered rest idle later split =>
      have more : rest ≠ [] := by
        intro done
        rw [done, List.append_nil] at split
        exact missing split
      cases pending with
      | nil =>
          cases later
          exact absurd rfl more
      | cons job pending =>
          cases taken : client.take locals job with
          | none =>
              rw [converse_stop pending taken] at later
              cases later
              exact absurd rfl more
          | some outcome => exact ⟨.client 0, _, congrArg (Option.map _) taken⟩
  | exchanging underway later split =>
      rcases underway.enabled calls with ⟨count, outcome, asked⟩ | ⟨move, port, moved⟩
      · exact ⟨.client count, _, congrArg (Option.map _) asked⟩
      · exact ⟨.server move, _, congrArg (Option.map _) moved⟩
  | delivering idle later split => exact ⟨.client 0, _, rfl⟩

end

/-- Under every schedule a client delivers what it would if the service were a
function, in order; no schedule goes on for ever and none gets stuck before
everything is delivered. -/
theorem conversation_delivers {client : Client Local Job Request Response Output}
    {format : Format Request Response} {service : Behaviour State Request Response}
    {step : Port Point → Move → Option (Port Point)} (serving : Serving format service step)
    (calls : Calls) {jobs : List Job} {locals : Local} {state : State} {port : Port Point}
    {outputs : List Output} (idle : Idle serving state port)
    (conversed : converse client service locals state jobs = some outputs)
    {turns : List (Turn Move)} {final : Conversation Local Job Output Point}
    (executed : execute (Conversation.step client format calls step)
      (.start jobs locals port) turns = some final) :
    final.delivered <+: outputs ∧ turns.length ≤ jobs.length * jobWork serving ∧
      (final.delivered ≠ outputs →
        ∃ turn next, final.step client format calls step turn = some next) := by
  rcases execute_tracked (Converses client serving outputs) (fun _ _ _ _ => Converses.turn)
      (.idle idle conversed rfl) executed with
    ⟨left, bound, converses⟩
  exact ⟨converses.delivered_prefix, by omega, converses.enabled calls⟩

end RemoteRootport.Service
