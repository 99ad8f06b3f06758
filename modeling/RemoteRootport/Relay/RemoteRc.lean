import RemoteRootport.Relay.DaemonDoe
import RemoteRootport.Relay.Stack

/-!
# The stub root complex

`remote-rc` stands in for the whole of thin server and emulator: it completes every
operation on the spot.  With whole records it is a service without a state.  Its
loop checks only that `recv` returned something, so a record that is cut short is
completed with whatever the buffer held: in the first iteration the contents of an
uninitialised variable, later the answer before.
-/

namespace RemoteRootport.Relay

open RemoteRootport.Bytes
open RemoteRootport.Machine
open RemoteRootport.Wire
open RemoteRootport.Service

/-- `PCI_DOE_READ`. -/
def pciDoeRead : Dword := 0x14

/-- What an iteration makes of the operation it has received. -/
def remoteAnswer (op : ConfigOp) : ConfigOp :=
  { op with
    value := if op.type = pciDoeRead then 0xdeadbeef else op.value
    status := 0 }

/-! ## Whole records -/

/-- `recv` with `MSG_WAITALL` and a single `send`. -/
def wholeCalls : Calls := ⟨.whole, .whole⟩

def remoteService : Behaviour Unit ConfigOp ConfigOp :=
  total fun _ op => ((), remoteAnswer op)

/-- The next system call of `remote-rc`. -/
def remoteRc : Port (Responder Unit) → Nat → Option (Port (Responder Unit)) :=
  respondStep operations wholeCalls remoteService

def remoteServing : Serving operations remoteService remoteRc :=
  responding operations wholeCalls remoteService

/-- `remote-rc` has just accepted a connection. -/
def remoteStart : Port (Responder Unit) where
  point := { loop := .receiving [], state := () }
  inbound := []
  outbound := []

theorem remoteStart_idle : Idle remoteServing () remoteStart :=
  ⟨rfl, rfl, .receiving⟩

theorem specRun_remote (ops : List ConfigOp) :
    (Transducer.specRun (fun (_ : Unit) op => ((), remoteAnswer op)) () ops).2 =
      ops.map remoteAnswer := by
  induction ops with
  | nil => rfl
  | cons op rest ih =>
      rw [Transducer.specRun_cons, List.map_cons, ← ih]

/-- `daemon-doe` against `remote-rc`: under every schedule the operations written
back are the operations handed out, each completed by itself, in order; and a
schedule can go on until all are written back and not for ever. -/
theorem chardev_remote_completes (requests : List ConfigOp) {turns : List (Service.Turn Nat)}
    {final : Conversation Unit ConfigOp ConfigOp (Responder Unit)}
    (executed : execute (Conversation.step chardevDaemon operations allCalls remoteRc)
      (.start requests () remoteStart) turns = some final) :
    final.delivered <+: requests.map remoteAnswer ∧
      turns.length ≤ requests.length * jobWork remoteServing ∧
      (final.delivered ≠ requests.map remoteAnswer →
        ∃ turn next, final.step chardevDaemon operations allCalls remoteRc turn = some next) := by
  have conversed := converse_chardev (fun (_ : Unit) op => ((), remoteAnswer op)) () requests
  rw [specRun_remote] at conversed
  exact conversation_delivers remoteServing allCalls remoteStart_idle conversed executed

/-- A read of the read mailbox, sent in two pieces and completed. -/
theorem chardev_remote_completes_read :
    ∃ final, execute (Conversation.step chardevDaemon operations allCalls remoteRc)
        (.start [⟨0x14, 0x1a4, 0, 1⟩] () remoteStart)
        [.client 0, .client 5, .client 11, .server 16, .server 16, .client 3, .client 13,
          .client 0] = some final ∧
      final.delivered = [⟨0x14, 0x1a4, 0xdeadbeef, 0⟩] := by
  have executed : execute (Conversation.step chardevDaemon operations allCalls remoteRc)
      (.start [⟨0x14, 0x1a4, 0, 1⟩] () remoteStart)
      [.client 0, .client 5, .client 11, .server 16, .server 16, .client 3, .client 13,
        .client 0] = some ⟨[], .idle, (), remoteStart, [⟨0x14, 0x1a4, 0xdeadbeef, 0⟩]⟩ := by
    rfl
  exact ⟨_, executed, (chardev_remote_completes _ executed).1.eq_of_length rfl⟩

/-! ## Records that are cut short -/

/-- What the calls of one iteration report. -/
structure RemoteTurn where
  recv : RecvResult
  send : SendResult
  deriving DecidableEq, Repr

/-- The record an iteration hands to `send`. -/
def answerBytes (op : OpBytes) : OpBytes :=
  (Block.layout ConfigOp.layout.size).decode
    (ConfigOp.layout.encode (remoteAnswer (ConfigOp.layout.decode op.toList)))

theorem toList_answerBytes (op : OpBytes) :
    (answerBytes op).toList =
      ConfigOp.layout.encode (remoteAnswer (ConfigOp.layout.decode op.toList)) :=
  Block.toList_decode (ConfigOp.layout.length_encode _)

/-- The records the loop hands to `send`.  The loop is left after a `recv` that
stores nothing and after a `send` that does not take the whole record. -/
def remoteLoop : OpBytes → List RemoteTurn → List OpBytes
  | _, [] => []
  | op, turn :: rest =>
      match turn.recv.stored ConfigOp.layout.size with
      | [] => []
      | received =>
          let record := answerBytes (op.store received)
          if turn.send.count ConfigOp.layout.size = ConfigOp.layout.size then
            record :: remoteLoop record rest
          else
            [record]

/-- The four bytes from a position on. -/
def window (start : Nat) (bytes : List Byte) : List Byte :=
  (bytes.drop start).take 4

theorem type_decode (bytes : List Byte) :
    (ConfigOp.layout.decode bytes).type = wordOf 32 (window 0 bytes) := rfl

theorem offset_decode (bytes : List Byte) :
    (ConfigOp.layout.decode bytes).offset = wordOf 32 (window 4 bytes) := rfl

theorem value_decode (bytes : List Byte) :
    (ConfigOp.layout.decode bytes).value = wordOf 32 (window 8 bytes) := by
  change wordOf 32 (((bytes.drop 4).drop 4).take 4) = _
  rw [List.drop_drop]
  rfl

/-- Four bytes that were received are not affected by the buffer. -/
theorem window_append {start : Nat} {received : List Byte} (inside : start + 4 ≤ received.length)
    (behind : List Byte) : window start (received ++ behind) = window start received := by
  rw [window, List.drop_append_of_le_length (by omega),
    List.take_append_of_le_length (by rw [List.length_drop]; omega)]
  rfl

theorem length_window {start : Nat} {bytes : List Byte} (inside : start + 4 ≤ bytes.length) :
    (window start bytes).length = 4 := by
  rw [window, List.length_take, List.length_drop]
  omega

/-- A dword determines the last of its bytes. -/
theorem last_of_window_eq {start : Nat} {left right : List Byte}
    (leftInside : start + 4 ≤ left.length) (rightInside : start + 4 ≤ right.length)
    (equal : wordOf 32 (window start left) = wordOf 32 (window start right)) :
    left[start + 3]? = right[start + 3]? := by
  have bytes := congrArg (wordBytes 4) equal
  have leftBytes := wordBytes_wordOf 32 (window start left) (by rw [length_window leftInside])
  have rightBytes := wordBytes_wordOf 32 (window start right) (by rw [length_window rightInside])
  rw [length_window leftInside] at leftBytes
  rw [length_window rightInside] at rightBytes
  rw [leftBytes, rightBytes] at bytes
  have last := congrArg (fun window => window[3]?) bytes
  simp only [window, List.getElem?_take, List.getElem?_drop] at last
  simpa using last

theorem remoteAnswer_eq_iff (left right : ConfigOp) :
    remoteAnswer left = remoteAnswer right ↔
      left.type = right.type ∧ left.offset = right.offset ∧
        (left.type = pciDoeRead ∨ left.value = right.value) := by
  rcases left with ⟨type, offset, value, status⟩
  rcases right with ⟨type', offset', value', status'⟩
  simp only [remoteAnswer, ConfigOp.mk.injEq, and_true]
  constructor
  · intro equal
    rcases equal with ⟨rfl, rfl, values⟩
    refine ⟨rfl, rfl, ?_⟩
    by_cases read : type = pciDoeRead
    · exact Or.inl read
    · rw [if_neg read, if_neg read] at values
      exact Or.inr values
  · intro fields
    rcases fields with ⟨rfl, rfl, read | rfl⟩
    · exact ⟨rfl, rfl, by rw [if_pos read, if_pos read]⟩
    · exact ⟨rfl, rfl, rfl⟩

theorem answerBytes_eq_iff (left right : OpBytes) :
    answerBytes left = answerBytes right ↔
      remoteAnswer (ConfigOp.layout.decode left.toList) =
        remoteAnswer (ConfigOp.layout.decode right.toList) := by
  constructor
  · intro equal
    have lists := congrArg Vector.toList equal
    rw [toList_answerBytes, toList_answerBytes] at lists
    rw [← ConfigOp.layout.decode_encode (remoteAnswer _), lists, ConfigOp.layout.decode_encode]
  · intro equal
    rw [answerBytes, answerBytes, equal]

/-- The answer to what was received does not depend on the buffer. -/
def Sealed (received : List Byte) : Prop :=
  ∀ op other : OpBytes, answerBytes (op.store received) = answerBytes (other.store received)

/-- A byte that was not received is the buffer's. -/
theorem getElem?_store_behind (op : OpBytes) {received : List Byte}
    (fits : received.length ≤ ConfigOp.layout.size) {position : Nat}
    (behind : received.length ≤ position) :
    (op.store received).toList[position]? = op.toList[position]? := by
  rw [Block.toList_store op received fits, List.getElem?_append_right behind,
    List.getElem?_drop, Nat.add_sub_cancel' behind]

/-- A buffer filled with one byte. -/
def filled (byte : Byte) : OpBytes :=
  Vector.replicate _ byte

/-- Two buffers that differ everywhere give different dwords wherever not all four
bytes were received. -/
theorem window_filled_ne {start : Nat} {received : List Byte}
    (fits : received.length ≤ ConfigOp.layout.size) (inside : start + 4 ≤ ConfigOp.layout.size)
    (behind : received.length ≤ start + 3) :
    wordOf 32 (window start ((filled 0).store received).toList) ≠
      wordOf 32 (window start ((filled 0xff).store received).toList) := by
  intro same
  have last := last_of_window_eq (by rw [Vector.length_toList]; exact inside)
    (by rw [Vector.length_toList]; exact inside) same
  rw [getElem?_store_behind _ fits behind, getElem?_store_behind _ fits behind, filled, filled,
    Vector.toList_replicate, Vector.toList_replicate, List.getElem?_replicate_of_lt (by omega),
    List.getElem?_replicate_of_lt (by omega)] at last
  cases last

/-- The type, the offset and the value were received, or the type and the offset of a
read. -/
def Decisive (received : List Byte) : Prop :=
  12 ≤ received.length ∨ 8 ≤ received.length ∧ wordOf 32 (window 0 received) = pciDoeRead

instance (received : List Byte) : Decidable (Decisive received) :=
  inferInstanceAs (Decidable (_ ∨ _ ∧ _))

/-- The answer is independent of the buffer exactly if all it is made of was
received. -/
theorem sealed_iff {received : List Byte} (fits : received.length ≤ ConfigOp.layout.size) :
    Sealed received ↔ Decisive received := by
  have window_store {start : Nat} (op : OpBytes) (got : start + 4 ≤ received.length) :
      window start (op.store received).toList = window start received := by
    rw [Block.toList_store op received fits, window_append got]
  constructor
  · intro independent
    have equal := independent (filled 0) (filled 0xff)
    rw [answerBytes_eq_iff, remoteAnswer_eq_iff, type_decode, offset_decode, offset_decode,
      value_decode, value_decode] at equal
    rcases equal with ⟨_, offsets, read⟩
    have offset : 8 ≤ received.length := by
      by_contra short
      exact window_filled_ne fits (by decide) (by omega) offsets
    rcases read with read | values
    · rw [window_store _ (by omega)] at read
      exact Or.inr ⟨offset, read⟩
    · left
      by_contra short
      exact window_filled_ne fits (by decide) (by omega) values
  · intro enough op other
    rw [answerBytes_eq_iff, remoteAnswer_eq_iff, type_decode, type_decode, offset_decode,
      offset_decode, value_decode, value_decode]
    rcases enough with whole | ⟨offset, read⟩
    · rw [window_store _ (by omega), window_store _ (by omega), window_store _ (by omega),
        window_store _ (by omega), window_store _ (by omega), window_store _ (by omega)]
      exact ⟨rfl, rfl, Or.inr rfl⟩
    · rw [window_store _ (by omega), window_store _ (by omega), window_store _ (by omega),
        window_store _ (by omega)]
      exact ⟨rfl, rfl, Or.inl read⟩

/-- An iteration that received something answers it, and goes on from the answer. -/
theorem remoteLoop_cons (op : OpBytes) {turn : RemoteTurn}
    (stored : turn.recv.stored ConfigOp.layout.size ≠ []) (rest : List RemoteTurn) :
    remoteLoop op (turn :: rest) =
      answerBytes (op.store (turn.recv.stored ConfigOp.layout.size)) ::
        if turn.send.count ConfigOp.layout.size = ConfigOp.layout.size then
          remoteLoop (answerBytes (op.store (turn.recv.stored ConfigOp.layout.size))) rest
        else [] := by
  rw [remoteLoop]
  generalize turn.recv.stored ConfigOp.layout.size = received at stored ⊢
  cases received with
  | nil => exact absurd rfl stored
  | cons byte bytes =>
      by_cases taken : turn.send.count ConfigOp.layout.size = ConfigOp.layout.size
      · simp only [if_pos taken]
      · simp only [if_neg taken]

/-- What `recv` stores in the iterations up to the one in which the loop is left. -/
def receivedIn : List RemoteTurn → List (List Byte)
  | [] => []
  | turn :: rest =>
      match turn.recv.stored ConfigOp.layout.size with
      | [] => []
      | received =>
          if turn.send.count ConfigOp.layout.size = ConfigOp.layout.size then
            received :: receivedIn rest
          else
            [received]

theorem receivedIn_cons {turn : RemoteTurn}
    (stored : turn.recv.stored ConfigOp.layout.size ≠ []) (rest : List RemoteTurn) :
    receivedIn (turn :: rest) =
      turn.recv.stored ConfigOp.layout.size ::
        if turn.send.count ConfigOp.layout.size = ConfigOp.layout.size then receivedIn rest
        else [] := by
  rw [receivedIn]
  generalize turn.recv.stored ConfigOp.layout.size = received at stored ⊢
  cases received with
  | nil => exact absurd rfl stored
  | cons byte bytes =>
      by_cases taken : turn.send.count ConfigOp.layout.size = ConfigOp.layout.size
      · simp only [if_pos taken]
      · simp only [if_neg taken]

/-- The answers to what was received, each on top of the answer before it. -/
def answersOn : OpBytes → List (List Byte) → List OpBytes
  | _, [] => []
  | held, received :: rest =>
      answerBytes (held.store received) :: answersOn (answerBytes (held.store received)) rest

/-- The loop sends one record for each `recv` that stores something. -/
theorem remoteLoop_eq (op : OpBytes) (turns : List RemoteTurn) :
    remoteLoop op turns = answersOn op (receivedIn turns) := by
  induction turns generalizing op with
  | nil => rfl
  | cons turn rest ih =>
      by_cases nothing : turn.recv.stored ConfigOp.layout.size = []
      · rw [remoteLoop, receivedIn, nothing]
        rfl
      · rw [remoteLoop_cons op nothing, receivedIn_cons nothing, answersOn]
        split
        case isTrue => rw [ih]
        case isFalse => rfl

theorem length_receivedIn_le (turns : List RemoteTurn) :
    ∀ received ∈ receivedIn turns, received.length ≤ ConfigOp.layout.size := by
  induction turns with
  | nil => exact List.forall_mem_nil _
  | cons turn rest ih =>
      by_cases nothing : turn.recv.stored ConfigOp.layout.size = []
      · rw [receivedIn, nothing]
        exact List.forall_mem_nil _
      · rw [receivedIn_cons nothing, List.forall_mem_cons]
        refine ⟨RecvResult.length_stored_le _ _, ?_⟩
        split
        case isTrue => exact ih
        case isFalse => exact List.forall_mem_nil _

/-- Bytes of an answer that are those of the operation: the type and the offset, and
the value unless it is a read. -/
def Echoed (record : OpBytes) (position : Nat) : Prop :=
  position < 8 ∨ position < 12 ∧ wordOf 32 (window 0 record.toList) ≠ pciDoeRead

/-- Two operations of one type and offset have the same bytes there. -/
theorem getElem?_encode {left right : ConfigOp} (type : left.type = right.type)
    (offset : left.offset = right.offset) {position : Nat}
    (inside : position < 8 ∨ position < 12 ∧ left.value = right.value) :
    (ConfigOp.layout.encode left)[position]? = (ConfigOp.layout.encode right)[position]? := by
  rcases inside with early | ⟨early, value⟩
  · have bytes (op : ConfigOp) : ConfigOp.layout.encode op =
        dword.encode op.type ++ dword.encode op.offset ++
          (dword.encode op.value ++ dword.encode op.status) := by
      rw [List.append_assoc]
      rfl
    have before : position < (dword.encode right.type ++ dword.encode right.offset).length := by
      rw [List.length_append, Layout.length_encode, Layout.length_encode]
      exact early
    rw [bytes left, bytes right, type, offset, List.getElem?_append_left before,
      List.getElem?_append_left before]
  · have bytes (op : ConfigOp) : ConfigOp.layout.encode op =
        dword.encode op.type ++ dword.encode op.offset ++ dword.encode op.value ++
          dword.encode op.status := by
      rw [List.append_assoc, List.append_assoc]
      rfl
    have before : position < (dword.encode right.type ++ dword.encode right.offset ++
        dword.encode right.value).length := by
      rw [List.length_append, List.length_append, Layout.length_encode, Layout.length_encode,
        Layout.length_encode]
      exact early
    rw [bytes left, bytes right, type, offset, value, List.getElem?_append_left before,
      List.getElem?_append_left before]

/-- The answer to an operation has its bytes, apart from the status and from the value of
a read. -/
theorem getElem?_encode_remoteAnswer (op : ConfigOp) {position : Nat}
    (inside : position < 8 ∨ position < 12 ∧ op.type ≠ pciDoeRead) :
    (ConfigOp.layout.encode (remoteAnswer op))[position]? =
      (ConfigOp.layout.encode op)[position]? := by
  have type : (remoteAnswer op).type = op.type := rfl
  have offset : (remoteAnswer op).offset = op.offset := rfl
  apply getElem?_encode type offset
  rcases inside with early | ⟨early, other⟩
  · exact Or.inl early
  · have value : (remoteAnswer op).value = op.value := if_neg other
    exact Or.inr ⟨early, value⟩

/-- An answer echoes the operation it answers. -/
theorem getElem?_answerBytes (op : OpBytes) {position : Nat}
    (echoed : Echoed (answerBytes op) position) :
    (answerBytes op).toList[position]? = op.toList[position]? := by
  have packed := ConfigOp.exact_layout op.toList op.length_toList
  have type : wordOf 32 (window 0 (answerBytes op).toList) =
      (ConfigOp.layout.decode op.toList).type := by
    rw [← type_decode, toList_answerBytes, Layout.decode_encode]
    rfl
  rw [Echoed, type] at echoed
  rw [toList_answerBytes, getElem?_encode_remoteAnswer _ echoed, packed]

/-- One iteration: the record sent for what was received on top of what the buffer
held. -/
structure Answers (held : OpBytes) (received : List Byte) (record : OpBytes) : Prop where
  record_eq : record = answerBytes (held.store received)
  /-- The record is independent of the buffer exactly if all it is made of was received. -/
  decided : (∀ other : OpBytes, answerBytes (other.store received) = record) ↔ Decisive received
  /-- What was not received is sent back as the buffer held it. -/
  stale : ∀ position, received.length ≤ position → Echoed record position →
    record.toList[position]? = held.toList[position]?

theorem answers_store (held : OpBytes) {received : List Byte}
    (fits : received.length ≤ ConfigOp.layout.size) :
    Answers held received (answerBytes (held.store received)) where
  record_eq := rfl
  decided := by
    rw [← sealed_iff fits]
    constructor
    · intro same op other
      rw [same op, same other]
    · intro independent other
      exact independent other held
  stale := by
    intro position behind echoed
    rw [getElem?_answerBytes _ echoed, getElem?_store_behind held fits behind]

/-- Each answer stands on the one before it. -/
theorem answersOn_answers (op : OpBytes) {received : List (List Byte)}
    (fit : ∀ bytes ∈ received, bytes.length ≤ ConfigOp.layout.size) (index : Nat)
    {bytes : List Byte} (found : received[index]? = some bytes) :
    ∃ held record, (op :: answersOn op received)[index]? = some held ∧
      (answersOn op received)[index]? = some record ∧ Answers held bytes record := by
  induction received generalizing op index with
  | nil => cases found
  | cons first rest ih =>
      rcases List.forall_mem_cons.mp fit with ⟨fits, others⟩
      rw [answersOn]
      cases index with
      | zero =>
          cases found
          exact ⟨op, _, rfl, rfl, answers_store op fits⟩
      | succ index =>
          rw [List.getElem?_cons_succ] at found
          rw [List.getElem?_cons_succ, List.getElem?_cons_succ]
          exact ih (answerBytes (op.store first)) others index found

theorem length_answersOn (op : OpBytes) (received : List (List Byte)) :
    (answersOn op received).length = received.length := by
  induction received generalizing op with
  | nil => rfl
  | cons first rest ih => exact congrArg Nat.succ (ih _)

/-- The first answer decides whether the others depend on the uninitialised buffer. -/
theorem answersOn_independent_iff (op : OpBytes) {received : List (List Byte)}
    (fit : ∀ bytes ∈ received, bytes.length ≤ ConfigOp.layout.size) :
    (∀ other : OpBytes, answersOn other received = answersOn op received) ↔
      ∀ first ∈ received.head?, Decisive first := by
  cases received with
  | nil =>
      constructor
      · intro _ first member
        cases member
      · intro _ other
        rfl
  | cons first rest =>
      have decided := (answers_store op (fit first List.mem_cons_self)).decided
      simp only [List.head?_cons, Option.mem_some_iff, forall_eq']
      rw [← decided]
      constructor
      · intro independent other
        exact (List.cons.inj (independent other)).1
      · intro same other
        rw [answersOn, answersOn, same other]

/-- A write arrives whole, then the type of a read and nothing more. -/
def shortTurns : List RemoteTurn :=
  [⟨.received (ConfigOp.layout.encode ⟨0x15, 0x19c, 7, 0⟩), .accepted 16⟩,
    ⟨.received [0x14, 0, 0, 0], .accepted 16⟩]

/-- An operation arrives and its answer leaves, each in one call. -/
def wholeTurn (op : ConfigOp) : RemoteTurn where
  recv := .received (ConfigOp.layout.encode op)
  send := .accepted ConfigOp.layout.size

theorem toList_answerBytes_store (held : OpBytes) (op : ConfigOp) :
    (answerBytes (held.store (ConfigOp.layout.encode op))).toList =
      ConfigOp.layout.encode (remoteAnswer op) := by
  rw [toList_answerBytes, toList_store_whole held (ConfigOp.layout.length_encode op),
    Layout.decode_encode]

theorem receivedIn_whole (ops : List ConfigOp) :
    receivedIn (ops.map wholeTurn) = ops.map ConfigOp.layout.encode := by
  induction ops with
  | nil => rfl
  | cons op rest ih =>
      have stored : (wholeTurn op).recv.stored ConfigOp.layout.size = ConfigOp.layout.encode op :=
        List.take_of_length_le (Nat.le_of_eq (ConfigOp.layout.length_encode op))
      have received : (wholeTurn op).recv.stored ConfigOp.layout.size ≠ [] := by
        rw [stored]
        exact ConfigOp.layout.encode_ne_nil (by decide) op
      have taken : (wholeTurn op).send.count ConfigOp.layout.size = ConfigOp.layout.size :=
        Nat.min_self _
      rw [List.map_cons, receivedIn_cons received, stored, if_pos taken, ih, List.map_cons]

/-- On whole records the loop answers each operation by itself. -/
theorem remoteLoop_whole (buffer : OpBytes) (ops : List ConfigOp) :
    (remoteLoop buffer (ops.map wholeTurn)).map Vector.toList =
      ops.map fun op => ConfigOp.layout.encode (remoteAnswer op) := by
  rw [remoteLoop_eq, receivedIn_whole]
  induction ops generalizing buffer with
  | nil => rfl
  | cons op rest ih =>
      rw [List.map_cons, List.map_cons, answersOn, List.map_cons, toList_answerBytes_store, ih]

/-- With whole records in its stream the process sends what the loop sends, whatever was
in the buffer. -/
theorem execute_remoteRc (buffer : OpBytes) (ops : List ConfigOp) (sent : List Byte) :
    execute remoteRc ⟨⟨.receiving [], ()⟩, ops.flatMap ConfigOp.layout.encode, sent⟩
        (ops.flatMap fun _ => [ConfigOp.layout.size, ConfigOp.layout.size]) =
      some ⟨⟨.receiving [], ()⟩, [],
        sent ++ ((remoteLoop buffer (ops.map wholeTurn)).map Vector.toList).flatten⟩ := by
  rw [remoteLoop_whole]
  induction ops generalizing sent with
  | nil =>
      rw [List.map_nil, List.flatten_nil, List.append_nil]
      rfl
  | cons op rest ih =>
      have first : execute remoteRc ⟨⟨.receiving [], ()⟩,
          ConfigOp.layout.encode op ++ rest.flatMap ConfigOp.layout.encode, sent⟩
          [ConfigOp.layout.size, ConfigOp.layout.size] =
          some ⟨⟨.receiving [], ()⟩, rest.flatMap ConfigOp.layout.encode,
            sent ++ ConfigOp.layout.encode (remoteAnswer op)⟩ :=
        execute_respondStep operations wholeCalls remoteService rfl _ sent
      rw [List.flatMap_cons, List.flatMap_cons, List.map_cons, List.flatten_cons,
        ← List.append_assoc, execute_append first, ih]

end RemoteRootport.Relay
