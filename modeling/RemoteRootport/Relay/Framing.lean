import RemoteRootport.Bytes.Layout
import RemoteRootport.Bytes.Transfer
import RemoteRootport.Machine.Schedule

/-!
# Records over a byte stream

The programs move records with eight loops, four that send and four that receive.
They differ in the call they repeat and in the text they exit with.  A link is one
sender loop and one receiver loop, each called once for every record, with a byte
stream between them that may end at any point.  Every schedule cuts the records
into pieces in its own way; none of them moves a byte across the border of a
record.
-/

namespace RemoteRootport.Relay.Framing

open RemoteRootport.Bytes
open RemoteRootport.Machine

/-! ## The transfer loops -/

/-- A loop around a call that moves some of the bytes; when the call moves none,
the loop prints a text with `perror` and exits. -/
structure Loop where
  failure : String
  deriving DecidableEq, Repr

def sendAll : Loop := ⟨"send"⟩
def xsend : Loop := ⟨"send"⟩
def xwrite : Loop := ⟨"write pipe"⟩
def pipeWrite : Loop := ⟨"write"⟩

def recvAll : Loop := ⟨"recv"⟩
def xrecv : Loop := ⟨"recv"⟩
def xread : Loop := ⟨"read pipe"⟩
def pipeRead : Loop := ⟨"read"⟩

/-! ## The link -/

/-- A sender with records to send and a receiver that makes one call for each.  A
stream that has ended keeps the number of bytes it carried from the beginning. -/
structure Link (size : Nat) where
  unsent : List (Block size)
  rest : List Byte
  senderExited : Option String
  stream : List Byte
  ended : Option Nat
  got : List Byte
  calls : Nat
  delivered : List (Block size)
  receiverExited : Option String
  deriving DecidableEq, Repr

/-- A call of either process, with the value it returns where there is one. -/
inductive Action where
  | next
  | send (n : Int)
  | finish (keep : Nat)
  | recv (n : Int)
  | deliver
  deriving DecidableEq, Repr

/-- Neither a failing send nor any other end of the stream. -/
def Action.transfers : Action → Bool
  | .send n => 0 < n
  | .finish _ => false
  | _ => true

namespace Link

variable {size : Nat}

def start (records : List (Block size)) : Link size where
  unsent := records
  rest := []
  senderExited := none
  stream := []
  ended := none
  got := []
  calls := records.length
  delivered := []
  receiverExited := none

/-- How many bytes the stream has carried, those still in it included. -/
def reach (link : Link size) : Nat :=
  link.delivered.length * size + link.got.length + link.stream.length

/-- The stream ends; of the bytes in it only some still arrive. -/
def cut (link : Link size) (keep : Nat) : Link size :=
  let kept := { link with stream := link.stream.take keep }
  { kept with ended := some kept.reach }

/-- The sender loop is called for the next record. -/
def nextStep (link : Link size) : Option (Link size) :=
  if link.ended = none ∧ link.rest = [] then
    match link.unsent with
    | [] => none
    | record :: unsent => some { link with unsent, rest := record.toList }
  else
    none

/-- One iteration of the sender loop. -/
def sendStep (sender : Loop) (link : Link size) (n : Int) : Option (Link size) :=
  if link.ended = none ∧ link.rest ≠ [] then
    if n ≤ 0 then
      some { link.cut link.stream.length with senderExited := some sender.failure }
    else
      (sendSome link.rest link.stream n.toNat).map fun (rest, stream) =>
        { link with rest, stream }
  else
    none

/-- One iteration of the receiver loop.  The call returns nothing only at the end of
the stream. -/
def recvStep (receiver : Loop) (link : Link size) (n : Int) : Option (Link size) :=
  if link.receiverExited = none ∧ link.calls ≠ 0 ∧ link.got.length < size then
    if n ≤ 0 then
      if link.stream = [] ∧ link.ended ≠ none then
        some { link with receiverExited := some receiver.failure }
      else
        none
    else
      (recvSome size link.got link.stream n.toNat).map fun (got, stream) =>
        { link with got, stream }
  else
    none

/-- The receiver loop returns the record to its caller. -/
def deliverStep (link : Link size) : Option (Link size) :=
  match link.calls with
  | 0 => none
  | calls + 1 =>
      if link.receiverExited = none ∧ link.got.length = size then
        some { link with
          got := []
          calls
          delivered := link.delivered ++ [(Block.layout size).decode link.got] }
      else
        none

def step (sender receiver : Loop) (link : Link size) : Action → Option (Link size)
  | .next => link.nextStep
  | .send n => link.sendStep sender n
  | .finish keep => if link.ended = none then some (link.cut keep) else none
  | .recv n => link.recvStep receiver n
  | .deliver => link.deliverStep

/-- A bound on the number of actions left. -/
def work (link : Link size) : Nat :=
  (2 * size + 1) * link.unsent.length + 2 * link.rest.length + link.stream.length + link.calls +
    (if link.ended = none then 1 else 0) + (if link.receiverExited = none then 1 else 0)

end Link

/-! ## The joint invariant -/

variable {size : Nat} {records : List (Block size)} {link later : Link size}

/-- What was delivered, what the receiver loop has, what is in the stream and what is
still to come are the records' bytes, in this order; as long as the stream is open
nothing of it is lost. -/
structure Framed (records : List (Block size)) (link : Link size) : Prop where
  flow : ∃ pending, Block.concat link.delivered ++ (link.got ++ (link.stream ++ pending)) =
    Block.concat records ∧ (link.ended = none → pending = link.rest ++ Block.concat link.unsent)
  bounded : link.got.length ≤ size
  counted : link.delivered.length + link.calls = records.length
  carried : ∀ total, link.ended = some total → link.reach = total
  failed : link.receiverExited ≠ none →
    link.ended ≠ none ∧ link.stream = [] ∧ link.got.length < size

theorem framed_start (records : List (Block size)) : Framed records (Link.start records) where
  flow := ⟨Block.concat records, rfl, fun _ => rfl⟩
  bounded := Nat.zero_le size
  counted := Nat.zero_add _
  carried := by
    intro total impossible
    cases impossible
  failed := fun exited => absurd rfl exited

theorem work_start (records : List (Block size)) :
    (Link.start records).work = (2 * size + 2) * records.length + 2 := by
  change (2 * size + 1) * records.length + 0 + 0 + records.length + 1 + 1 = _
  rw [show 2 * size + 2 = 2 * size + 1 + 1 from rfl, Nat.succ_mul (2 * size + 1)]
  rfl

namespace Framed

theorem next (framed : Framed records link) (stepped : link.nextStep = some later) :
    Framed records later ∧ later.work < link.work := by
  rw [Link.nextStep, Option.ite_none_right_eq_some] at stepped
  rcases stepped with ⟨⟨still, idle⟩, taken⟩
  cases waiting : link.unsent with
  | nil =>
      rw [waiting] at taken
      cases taken
  | cons record unsent =>
      rw [waiting] at taken
      cases taken
      constructor
      · rcases framed.flow with ⟨pending, bytes, rest⟩
        refine ⟨⟨pending, bytes, ?_⟩, framed.bounded, framed.counted, framed.carried,
          framed.failed⟩
        intro _
        rw [rest still, idle, waiting]
        rfl
      · simp only [Link.work, waiting, idle, List.length_cons, Vector.length_toList,
          List.length_nil, Nat.mul_succ]
        omega

/-- The stream may end at any point. -/
theorem cut (framed : Framed records link) (still : link.ended = none) (keep : Nat) :
    Framed records (link.cut keep) ∧ (link.cut keep).work < link.work := by
  constructor
  · rcases framed.flow with ⟨pending, bytes, _⟩
    refine ⟨⟨link.stream.drop keep ++ pending, ?_, ?_⟩, framed.bounded, framed.counted, ?_, ?_⟩
    · change _ ++ (_ ++ (link.stream.take keep ++ (link.stream.drop keep ++ pending))) = _
      rw [← List.append_assoc (link.stream.take keep), List.take_append_drop]
      exact bytes
    · intro impossible
      cases impossible
    · intro total ended
      cases ended
      rfl
    · intro exited
      exact absurd still (framed.failed exited).1
  · have shorter : (link.stream.take keep).length ≤ link.stream.length :=
      List.length_take_le' _ _
    simp only [Link.work, Link.cut, still, reduceCtorEq, if_true, if_false]
    omega

theorem send {sender : Loop} {n : Int} (framed : Framed records link)
    (stepped : link.sendStep sender n = some later) :
    Framed records later ∧ later.work < link.work := by
  rw [Link.sendStep, Option.ite_none_right_eq_some] at stepped
  rcases stepped with ⟨⟨still, _⟩, taken⟩
  by_cases failing : n ≤ 0
  · rw [if_pos failing] at taken
    cases taken
    rcases framed.cut still link.stream.length with ⟨kept, lower⟩
    exact ⟨⟨kept.flow, kept.bounded, kept.counted, kept.carried, kept.failed⟩, lower⟩
  · rw [if_neg failing] at taken
    rcases Option.map_eq_some_iff.mp taken with ⟨pieces, sent, rfl⟩
    rcases sendSome_eq_some sent with ⟨positive, bound, rfl⟩
    constructor
    · rcases framed.flow with ⟨pending, bytes, rest⟩
      refine ⟨⟨link.rest.drop n.toNat ++ Block.concat link.unsent, ?_, fun _ => rfl⟩,
        framed.bounded, framed.counted, ?_, ?_⟩
      · rw [rest still] at bytes
        change _ ++ (_ ++ (link.stream ++ link.rest.take n.toNat ++ _)) = _
        rw [List.append_assoc link.stream, ← List.append_assoc (link.rest.take n.toNat),
          List.take_append_drop]
        exact bytes
      · intro total ended
        rw [still] at ended
        cases ended
      · intro exited
        exact absurd still (framed.failed exited).1
    · simp only [Link.work, List.length_drop, List.length_append, List.length_take]
      omega

theorem recv {receiver : Loop} {n : Int} (framed : Framed records link)
    (stepped : link.recvStep receiver n = some later) :
    Framed records later ∧ later.work < link.work := by
  rw [Link.recvStep, Option.ite_none_right_eq_some] at stepped
  rcases stepped with ⟨⟨alive, _, unfinished⟩, taken⟩
  by_cases ending : n ≤ 0
  · rw [if_pos ending, Option.ite_none_right_eq_some] at taken
    rcases taken with ⟨⟨empty, ended⟩, taken⟩
    cases taken
    constructor
    · exact ⟨framed.flow, framed.bounded, framed.counted, framed.carried,
        fun _ => ⟨ended, empty, unfinished⟩⟩
    · simp [Link.work, alive]
  · rw [if_neg ending] at taken
    rcases Option.map_eq_some_iff.mp taken with ⟨pieces, received, rfl⟩
    rcases recvSome_eq_some received with ⟨positive, bound, fits, rfl⟩
    have length : (link.got ++ link.stream.take n.toNat).length = link.got.length + n.toNat := by
      rw [List.length_append, List.length_take, Nat.min_eq_left bound]
    constructor
    · rcases framed.flow with ⟨pending, bytes, rest⟩
      refine ⟨⟨pending, ?_, rest⟩, ?_, framed.counted, ?_, ?_⟩
      · change _ ++ (link.got ++ link.stream.take n.toNat ++
          (link.stream.drop n.toNat ++ pending)) = _
        rw [List.append_assoc link.got, ← List.append_assoc (link.stream.take n.toNat),
          List.take_append_drop]
        exact bytes
      · rw [length]
        exact fits
      · intro total ended
        rw [← framed.carried total ended]
        simp only [Link.reach, length, List.length_drop]
        omega
      · intro exited
        exact absurd alive exited
    · simp only [Link.work, List.length_drop]
      omega

theorem deliver (framed : Framed records link) (stepped : link.deliverStep = some later) :
    Framed records later ∧ later.work < link.work := by
  rw [Link.deliverStep] at stepped
  cases left : link.calls with
  | zero =>
      rw [left] at stepped
      cases stepped
  | succ calls =>
      rw [left] at stepped
      rcases Option.ite_none_right_eq_some.mp stepped with ⟨⟨alive, full⟩, taken⟩
      cases taken
      constructor
      · rcases framed.flow with ⟨pending, bytes, rest⟩
        refine ⟨⟨pending, ?_, rest⟩, Nat.zero_le size, ?_, ?_, ?_⟩
        · rw [Block.concat_append, Block.concat_cons, Block.concat_nil, List.append_nil,
            Block.toList_decode full, List.nil_append, List.append_assoc]
          exact bytes
        · have counted := framed.counted
          change (link.delivered ++ [_]).length + calls = _
          rw [List.length_append, List.length_singleton]
          omega
        · intro total ended
          rw [← framed.carried total ended]
          simp only [Link.reach, List.length_append, List.length_singleton, Nat.succ_mul,
            List.length_nil, full]
          omega
        · intro exited
          exact absurd alive exited
      · simp only [Link.work, left]
        omega

/-- One action of either process keeps the invariant and leaves less to do. -/
theorem step {sender receiver : Loop} {action : Action} (framed : Framed records link)
    (stepped : link.step sender receiver action = some later) :
    Framed records later ∧ later.work < link.work := by
  cases action with
  | next => exact framed.next stepped
  | send n => exact framed.send stepped
  | finish keep =>
      rw [Link.step, Option.ite_none_right_eq_some] at stepped
      rcases stepped with ⟨still, taken⟩
      cases taken
      exact framed.cut still keep
  | recv n => exact framed.recv stepped
  | deliver => exact framed.deliver stepped

/-! ## What the invariant says about the records -/

/-- The delivered records are the first ones, and the bytes on their way are those of
the others. -/
theorem split (framed : Framed records link) :
    ∃ others pending, link.delivered ++ others = records ∧
      link.got ++ (link.stream ++ pending) = Block.concat others ∧
      (link.ended = none → pending = link.rest ++ Block.concat link.unsent) := by
  rcases framed.flow with ⟨pending, bytes, rest⟩
  have counted := framed.counted
  have first := Block.eq_take_of_concat (by omega) ⟨_, bytes⟩
  have whole : link.delivered ++ records.drop link.delivered.length = records :=
    (congrArg (· ++ _) first).trans (List.take_append_drop _ _)
  refine ⟨_, pending, whole, ?_, rest⟩
  rw [← whole, Block.concat_append] at bytes
  exact List.append_cancel_left bytes

/-- The receiver loop has bytes of its own record only. -/
theorem got_within (framed : Framed records link) {record : Block size}
    (own : records[link.delivered.length]? = some record) : link.got <+: record.toList := by
  rcases framed.split with ⟨others, pending, whole, bytes, -⟩
  rw [← whole, List.getElem?_append_right (Nat.le_refl _), Nat.sub_self] at own
  cases others with
  | nil => cases own
  | cons first others =>
      cases own
      have bounded : link.got.length ≤ record.toList.length := by
        rw [record.length_toList]
        exact framed.bounded
      exact List.prefix_of_prefix_length_le ⟨_, bytes⟩ (List.prefix_append _ _) bounded

end Framed

/-! ## Which actions are possible -/

namespace Link

theorem next_enabled (still : link.ended = none) (idle : link.rest = [])
    (waiting : link.unsent ≠ []) : ∃ later, link.nextStep = some later := by
  rw [nextStep, if_pos ⟨still, idle⟩]
  cases unsent : link.unsent with
  | nil => exact absurd unsent waiting
  | cons record unsent => exact ⟨_, rfl⟩

theorem send_enabled (sender : Loop) (still : link.ended = none) (busy : link.rest ≠ []) :
    ∃ later, link.sendStep sender 1 = some later := by
  rw [sendStep, if_pos ⟨still, busy⟩, if_neg (by decide)]
  apply transfer_enabled
  exact ⟨_, if_pos ⟨Nat.zero_lt_one, List.length_pos_iff.mpr busy⟩⟩

theorem recv_enabled (receiver : Loop) (alive : link.receiverExited = none)
    (calls : link.calls ≠ 0) (wanting : link.got.length < size) (carrying : link.stream ≠ []) :
    ∃ later, link.recvStep receiver 1 = some later := by
  rw [recvStep, if_pos ⟨alive, calls, wanting⟩, if_neg (by decide)]
  apply transfer_enabled
  exact ⟨_, if_pos ⟨Nat.zero_lt_one, List.length_pos_iff.mpr carrying, wanting⟩⟩

theorem exit_enabled (receiver : Loop) (alive : link.receiverExited = none)
    (calls : link.calls ≠ 0) (wanting : link.got.length < size) (empty : link.stream = [])
    (ended : link.ended ≠ none) : ∃ later, link.recvStep receiver 0 = some later := by
  rw [recvStep, if_pos ⟨alive, calls, wanting⟩, if_pos (Int.le_refl 0), if_pos ⟨empty, ended⟩]
  exact ⟨_, rfl⟩

theorem deliver_enabled (alive : link.receiverExited = none) (calls : link.calls ≠ 0)
    (full : link.got.length = size) : ∃ later, link.deliverStep = some later := by
  rw [deliverStep]
  cases left : link.calls with
  | zero => exact absurd left calls
  | succ calls => exact ⟨_, if_pos ⟨alive, full⟩⟩

end Link

namespace Framed

/-- An open stream with nothing in it is fed by the sender as long as a record is not
complete. -/
theorem sender_unfinished (framed : Framed records link) (unfinished : link.delivered ≠ records)
    (wanting : link.got.length < size) (empty : link.stream = []) (still : link.ended = none) :
    link.rest ≠ [] ∨ link.unsent ≠ [] := by
  rcases framed.split with ⟨others, pending, whole, bytes, rest⟩
  by_contra finished
  rw [not_or, not_not, not_not] at finished
  rw [rest still, empty, finished.1, finished.2] at bytes
  have length := congrArg List.length bytes
  rw [Block.length_concat] at length
  cases others with
  | nil =>
      rw [List.append_nil] at whole
      exact unfinished whole
  | cons record others =>
      simp only [List.append_nil, Block.concat_nil, List.length_cons, Nat.succ_mul] at length
      omega

theorem calls_ne_zero (framed : Framed records link) (unfinished : link.delivered ≠ records) :
    link.calls ≠ 0 := by
  rcases framed.split with ⟨others, _, whole, _, _⟩
  intro none
  have counted := framed.counted
  rw [← whole, List.length_append, none] at counted
  rw [List.length_eq_zero_iff.mp (show others.length = 0 by omega), List.append_nil] at whole
  exact unfinished whole

/-- Before the last record is delivered one of the loops can go on, unless the
receiver has come to the end of the stream. -/
theorem progress (sender receiver : Loop) (framed : Framed records link)
    (alive : link.receiverExited = none) (unfinished : link.delivered ≠ records) :
    ∃ action later, action.transfers = true ∧
      link.step sender receiver action = some later := by
  have calls := framed.calls_ne_zero unfinished
  rcases Nat.lt_or_eq_of_le framed.bounded with wanting | full
  · by_cases empty : link.stream = []
    · by_cases still : link.ended = none
      · by_cases idle : link.rest = []
        · have waiting := (framed.sender_unfinished unfinished wanting empty still).resolve_left
            (not_not_intro idle)
          rcases Link.next_enabled still idle waiting with ⟨later, stepped⟩
          exact ⟨.next, later, rfl, stepped⟩
        · rcases Link.send_enabled sender still idle with ⟨later, stepped⟩
          exact ⟨.send 1, later, rfl, stepped⟩
      · rcases Link.exit_enabled receiver alive calls wanting empty still with ⟨later, stepped⟩
        exact ⟨.recv 0, later, rfl, stepped⟩
    · rcases Link.recv_enabled receiver alive calls wanting empty with ⟨later, stepped⟩
      exact ⟨.recv 1, later, rfl, stepped⟩
  · rcases Link.deliver_enabled alive calls full with ⟨later, stepped⟩
    exact ⟨.deliver, later, rfl, stepped⟩

/-- A record that the stream does not carry to its end is not delivered. -/
theorem delivered_le (framed : Framed records link) {total index : Nat}
    (ended : link.ended = some total) (missing : total < (index + 1) * size) :
    link.delivered.length ≤ index := by
  have carried := framed.carried total ended
  rw [Link.reach] at carried
  by_contra beyond
  have whole : (index + 1) * size ≤ link.delivered.length * size :=
    Nat.mul_le_mul_right size (Nat.lt_of_not_le beyond)
  omega

/-- A receiver that met the end of the stream has delivered the records the stream
carried in full. -/
theorem delivered_of_exited (framed : Framed records link) {total : Nat}
    (ended : link.ended = some total) (exited : link.receiverExited ≠ none) :
    link.delivered = records.take (total / size) := by
  rcases framed.failed exited with ⟨_, empty, short⟩
  rcases framed.split with ⟨others, _, whole, _, _⟩
  have carried := framed.carried total ended
  rw [Link.reach, empty, List.length_nil, Nat.add_zero] at carried
  have count : total / size = link.delivered.length := by
    rw [← carried, Nat.mul_comm, Nat.mul_add_div (by omega), Nat.div_eq_of_lt short,
      Nat.add_zero]
  rw [count, ← whole, List.take_left]

end Framed

/-- Over every schedule of partial transfers the receiver is handed the records that
were sent, in order and unaltered; no call consumes a byte of a later record; every
schedule comes to an end, and it ends with all records delivered or at the end of
the stream, with the records delivered that the stream carried in full. -/
theorem records_framed (sender receiver : Loop) {actions : List Action}
    (executed : execute (Link.step sender receiver) (Link.start records) actions = some link) :
    link.delivered <+: records ∧
    (∀ record, records[link.delivered.length]? = some record → link.got <+: record.toList) ∧
    actions.length ≤ (2 * size + 2) * records.length + 2 ∧
    (link.delivered = records ∨ link.receiverExited ≠ none ∨
      ∃ action later, action.transfers = true ∧
        link.step sender receiver action = some later) ∧
    (link.ended = none → link.receiverExited = none) ∧
    (∀ total, link.ended = some total →
      (∀ index, total < (index + 1) * size → link.delivered.length ≤ index) ∧
      (link.receiverExited ≠ none → link.delivered = records.take (total / size))) := by
  rcases execute_tracked (fun link work => Framed records link ∧ link.work = work)
      (fun link work action later tracked stepped => by
        rcases tracked.1.step stepped with ⟨framed, lower⟩
        exact ⟨later.work, tracked.2 ▸ lower, framed, rfl⟩)
      ⟨framed_start records, work_start records⟩ executed with
    ⟨left, bound, framed, _⟩
  refine ⟨?_, fun record => framed.got_within, by omega, ?_, ?_, ?_⟩
  · rcases framed.split with ⟨others, _, whole, _, _⟩
    exact ⟨others, whole⟩
  · by_cases alive : link.receiverExited = none
    · by_cases unfinished : link.delivered = records
      · exact Or.inl unfinished
      · exact Or.inr (Or.inr (framed.progress sender receiver alive unfinished))
    · exact Or.inr (Or.inl alive)
  · intro still
    by_contra exited
    exact (framed.failed exited).1 still
  · intro total ended
    exact ⟨fun index => framed.delivered_le ended, framed.delivered_of_exited ended⟩

/-- Two records of two bytes under way, the second of which the stream does not carry
to its end. -/
def cutSchedule : List Action :=
  [.next, .send 1, .recv 1, .send 1, .next, .send 1, .finish 2, .recv 1, .deliver, .recv 1,
    .recv 0]

theorem cut_record_withheld :
    ∃ link, execute (Link.step xsend recvAll)
        (Link.start [Vector.replicate 2 1, Vector.replicate 2 2]) cutSchedule = some link ∧
      link.receiverExited = some "recv" ∧ link.delivered = [Vector.replicate 2 1] := by
  have executed : execute (Link.step xsend recvAll)
      (Link.start [Vector.replicate 2 1, Vector.replicate 2 2]) cutSchedule =
        some ⟨[], [2], none, [], some 3, [2], 1, [Vector.replicate 2 1], some "recv"⟩ := by
    decide
  rcases records_framed xsend recvAll executed with ⟨_, _, _, _, _, ended⟩
  exact ⟨_, executed, rfl, (ended 3 rfl).2 (by decide)⟩

end RemoteRootport.Relay.Framing
