import RemoteRootport.DoeEmu.Refinement

/-!
# Requests and responses over whole access sequences

Two facts about a mailbox that is driven by an arbitrary host.  A started request
is answered from exactly the dwords written for it, whatever was exchanged
before.  A published response is then delivered whole, in order and once, for
every way of mixing other accesses into the drain.
-/

namespace RemoteRootport.DoeEmu

open RemoteRootport.Bytes
open RemoteRootport.Machine

variable (table : List Protocol)

/-! ## The dwords of a request -/

/-- Track the dwords written for the next request across one access. -/
def collect (written : List Dword) : Access → List Dword
  | .read _ => written
  | .write reg val =>
      if reg = doeRegCtrl ∧ (hasGo val || hasAbort val) then []
      else if reg = doeRegWrite then written ++ [val]
      else written

/-- The values written to the write mailbox since the latest control write that
started a request or aborted, or since the beginning. -/
def writtenSince (accesses : List Access) : List Dword :=
  accesses.foldl collect []

/-- The dwords a control write finds: nothing if it aborts as well, and never
more than the buffer takes. -/
def ownRequest (before : List Access) (val : Dword) : List Dword :=
  (if hasAbort val then [] else writtenSince before).take doeBufDwords

theorem Mailbox.request_push (mailbox : Mailbox) (word : Dword) {written : List Dword}
    (kept : mailbox.request = written.take doeBufDwords) :
    (mailbox.push word).request = (written ++ [word]).take doeBufDwords := by
  rw [Mailbox.push]
  by_cases room : mailbox.request.length < doeBufDwords
  · have short : written.length < doeBufDwords := by
      rw [kept, List.length_take] at room
      omega
    have whole : mailbox.request = written := by
      rw [kept, List.take_of_length_le (Nat.le_of_lt short)]
    rw [dif_pos room]
    change mailbox.request ++ [word] = _
    rw [whole, List.take_of_length_le (by rw [List.length_append]; exact short)]
  · have full : doeBufDwords ≤ written.length := by
      rw [kept, List.length_take] at room
      omega
    rw [dif_neg room, kept, List.take_append_of_le_length full]

theorem Mailbox.request_go (mailbox : Mailbox) : (mailbox.go table).request = [] := by
  rw [Mailbox.go]
  cases answer table mailbox.request <;> rfl

theorem Mailbox.request_ack (mailbox : Mailbox) : mailbox.ack.request = mailbox.request := by
  rw [Mailbox.ack]
  by_cases last : mailbox.response.tail = []
  · rw [dif_pos last]
  · rw [dif_neg last]

theorem Mailbox.request_control (mailbox : Mailbox) (val : Dword) :
    (mailbox.control table val).request =
      if hasGo val || hasAbort val then [] else mailbox.request := by
  rw [Mailbox.control]
  cases go : hasGo val <;> cases abort : hasAbort val <;>
    simp [Mailbox.request_go, Mailbox.empty]

theorem collect_inert {access : Access} (written : List Dword)
    (quiet : access.isControl = false) (silent : access.isPush = false) :
    collect written access = written := by
  cases access with
  | read reg => rfl
  | write reg val =>
      have unstarted : ¬(reg = doeRegCtrl ∧ (hasGo val || hasAbort val) = true) := by
        intro both
        rw [Access.isControl, both.1, both.2] at quiet
        cases quiet
      have unwritten : reg ≠ doeRegWrite := by
        intro equal
        rw [Access.isPush, equal] at silent
        cases silent
      rw [collect, if_neg unstarted, if_neg unwritten]

/-- One access tracks the request as `collect` does, cut at the buffer size. -/
theorem Mailbox.request_step (mailbox : Mailbox) (access : Access) {written : List Dword}
    (kept : mailbox.request = written.take doeBufDwords) :
    (mailbox.step table access).1.request = (collect written access).take doeBufDwords := by
  rcases mailbox.step_cases table access with
    ⟨val, rfl, control, stepped⟩ | ⟨val, rfl, stepped⟩ | ⟨rfl, stepped⟩ |
      ⟨quiet, silent, _, stepped⟩
  · rw [stepped, Mailbox.request_control, if_pos control, collect, if_pos ⟨rfl, control⟩,
      List.take_nil]
  · rw [stepped]
    exact mailbox.request_push val kept
  · rw [stepped, Mailbox.request_ack, kept]
    rfl
  · rw [stepped, collect_inert written quiet silent, kept]

theorem Mailbox.request_after (accesses : List Access) (mailbox : Mailbox)
    (written : List Dword) (kept : mailbox.request = written.take doeBufDwords) :
    (mailbox.after table accesses).request =
      (accesses.foldl collect written).take doeBufDwords := by
  induction accesses generalizing mailbox written with
  | nil => exact kept
  | cons access rest ih =>
      rw [Mailbox.after_cons, List.foldl_cons]
      exact ih _ _ (mailbox.request_step table access kept)

/-- Without control writes and request dwords the request does not change. -/
theorem Mailbox.request_unchanged (accesses : List Access) (mailbox : Mailbox)
    (quiet : ∀ access ∈ accesses, access.isControl = false ∧ access.isPush = false)
    (empty : mailbox.request = []) : (mailbox.after table accesses).request = [] := by
  have tracked := Mailbox.request_after table accesses mailbox [] (by rw [empty, List.take_nil])
  have idle : accesses.foldl collect [] = [] := by
    clear tracked
    induction accesses with
    | nil => rfl
    | cons access rest ih =>
        have first := quiet access List.mem_cons_self
        rw [List.foldl_cons, collect_inert [] first.1 first.2]
        exact ih fun other membership => quiet other (List.mem_cons_of_mem _ membership)
  rw [tracked, idle, List.take_nil]

/-- After any sequence of accesses the emulator stands for the abstract mailbox
the same sequence leads to. -/
theorem run_represents (accesses : List Access) :
    ∃ doe outputs, (mailbox table).run Doe.zero accesses = .ok (doe, outputs) ∧
      Represents doe (Mailbox.empty.after table accesses) := by
  rcases (mailbox_refines table).run represents_zero accesses with ⟨doe, ran, represents⟩
  exact ⟨doe, _, ran, represents⟩

/-- The request a starting control write processes, in the concrete record. -/
theorem holds_ownRequest (before : List Access) (val : Dword) {doe : Doe}
    (represents : Represents doe (Mailbox.empty.after table before)) :
    HoldsRequest (if hasAbort val then doe.abort else doe) (ownRequest before val) := by
  have tracked : (Mailbox.empty.after table before).request =
      (writtenSince before).take doeBufDwords :=
    Mailbox.request_after table before Mailbox.empty [] rfl
  rw [ownRequest]
  cases hasAbort val with
  | true => exact ⟨rfl, Nat.zero_le _, rfl⟩
  | false =>
      have holds := represents.request
      rw [tracked] at holds
      exact holds

/-- Carry out a starting control write on the record it finds. -/
theorem regWrite_go (doe : Doe) {val : Dword} (go : hasGo val = true) :
    regWrite table doe doeRegCtrl val = (if hasAbort val then doe.abort else doe).go table := by
  rw [regWrite, if_pos rfl]
  exact if_pos go

/-- A started request is answered from exactly its own dwords.  With too few
dwords or an unserved protocol the status becomes an error; otherwise the
response is published from its first dword on, and it is a function of the
discovery index, or of the SPDM type and the two low bytes of the third dword.
Nothing exchanged earlier has a say. -/
theorem go_answers_own_request (before : List Access) (val : Dword) (go : hasGo val = true) :
    ∃ doe outputs next,
      (mailbox table).run Doe.zero before = .ok (doe, outputs) ∧
      regWrite table doe doeRegCtrl val = .ok next ∧
      ((ownRequest before val).length < 2 ∨
        (∃ first rest, ownRequest before val = first :: rest ∧
          ¬Served (headerVid first) (headerType first)) ∨
        (ownRequest before val).length < 3 → next.status = doeStatusError) ∧
      (∀ first second third rest,
        ownRequest before val = first :: second :: third :: rest →
        headerVid first = doeVidPcisig →
        (headerType first = doeTypeDisc →
          next.status = doeStatusDataObjectReady ∧ next.rspIdx = 0 ∧
          next.rspBuf.toList.take next.rspLen.toNat =
            (discoveryResponse table (third &&& 0xFF)).dwords) ∧
        (headerType first = doeTypeCmaSpdm ∨ headerType first = doeTypeSecuredCmaSpdm →
          next.status = doeStatusDataObjectReady ∧ next.rspIdx = 0 ∧
          next.rspBuf.toList.take next.rspLen.toNat =
            (spdmResponse (headerType first) (laneOf third 0) (laneOf third 1)).dwords)) := by
  rcases run_represents table before with ⟨doe, outputs, ran, represents⟩
  have holds := holds_ownRequest table before val represents
  have started := regWrite_go table doe go
  cases answered : answer table (ownRequest before val) with
  | none =>
      rw [go_fails holds answered] at started
      refine ⟨doe, outputs, _, ran, started, fun _ => rfl, ?_⟩
      intro first second third rest dwords vendor
      have refused (served : Served (headerVid first) (headerType first)) : False := by
        rw [dwords, answer_of_served table served] at answered
        cases answered
      constructor
      · intro discovery
        exact (refused ⟨vendor, Or.inl discovery⟩).elim
      · intro spdm
        exact (refused ⟨vendor, Or.inr spdm⟩).elim
  | some response =>
      rcases go_publishes holds answered with ⟨rspBuf, published, stored⟩
      rw [published] at started
      refine ⟨doe, outputs, _, ran, started, ?_, ?_⟩
      · intro refused
        rw [(answer_eq_none_iff table _).mpr refused] at answered
        cases answered
      · intro first second third rest dwords vendor
        constructor
        · intro discovery
          rw [dwords, answer_of_served table ⟨vendor, Or.inl discovery⟩, discovery,
            respond_discovery] at answered
          cases answered
          exact ⟨rfl, rfl, stored⟩
        · intro spdm
          rw [dwords, answer_of_served table ⟨vendor, Or.inr spdm⟩,
            respond_spdm table _ spdm] at answered
          cases answered
          exact ⟨rfl, rfl, stored⟩

/-- The accesses of a discovery request for index 0, up to the starting write. -/
def discoveryAccesses : List Access :=
  [.write doeRegWrite 1, .write doeRegWrite 3, .write doeRegWrite 0]

theorem go_answers_discovery :
    hasGo doeCtrlGo = true ∧
      ∃ doe outputs next,
        (mailbox protocols).run Doe.zero discoveryAccesses = .ok (doe, outputs) ∧
        regWrite protocols doe doeRegCtrl doeCtrlGo = .ok next ∧
        next.rspBuf.toList.take next.rspLen.toNat = [1, 4, 1, 1] := by
  refine ⟨rfl, ?_⟩
  rcases go_answers_own_request protocols discoveryAccesses doeCtrlGo rfl with
    ⟨doe, outputs, next, ran, started, _, served⟩
  have discovery := (served 1 3 0 [] rfl rfl).1 rfl
  exact ⟨doe, outputs, next, ran, started, discovery.2.2⟩

/-- The record in which that request has just been answered. -/
theorem discovery_ready :
    ∃ doe next, Reachable protocols doe ∧
      regWrite protocols doe doeRegCtrl doeCtrlGo = .ok next ∧
      next.status = doeStatusDataObjectReady ∧
      Represents next ((Mailbox.empty.after protocols discoveryAccesses).go protocols) := by
  rcases run_represents protocols discoveryAccesses with ⟨doe, outputs, ran, represents⟩
  rcases control_refines protocols represents doeCtrlGo with ⟨next, started, nextRep, _⟩
  exact ⟨doe, next, ⟨discoveryAccesses, outputs, ran⟩, started, nextRep.status, nextRep⟩

/-! ## Draining a response -/

variable {pending : Status} {response : List Dword} {acks : Nat}

/-- `acks` dwords of a response have been acknowledged; the status is `pending`
until the last one is. -/
def Draining (pending : Status) (response : List Dword) (acks : Nat) (mailbox : Mailbox) :
    Prop :=
  mailbox.response = response.drop acks ∧
    mailbox.status = if acks < response.length then pending else .idle

theorem Draining.push {mailbox : Mailbox}
    (draining : Draining pending response acks mailbox) (word : Dword) :
    Draining pending response acks (mailbox.push word) := by
  rw [Mailbox.push]
  by_cases room : mailbox.request.length < doeBufDwords
  · rw [dif_pos room]
    exact draining
  · rw [dif_neg room]
    exact draining

theorem Draining.ack {mailbox : Mailbox}
    (draining : Draining pending response acks mailbox) :
    Draining pending response (acks + 1) mailbox.ack := by
  rcases draining with ⟨remaining, status⟩
  have tail : mailbox.response.tail = response.drop (acks + 1) := by
    rw [remaining, List.tail_drop]
  rw [Mailbox.ack]
  by_cases last : mailbox.response.tail = []
  · have consumed : ¬acks + 1 < response.length := by
      rw [tail, List.drop_eq_nil_iff] at last
      omega
    rw [dif_pos last]
    constructor
    · rw [← tail, last]
    · rw [if_neg consumed]
  · have unfinished : acks + 1 < response.length := by
      rw [tail, List.drop_eq_nil_iff] at last
      omega
    rw [dif_neg last]
    constructor
    · exact tail
    · rw [if_pos unfinished]
      rwa [if_pos (by omega)] at status

/-- Only an acknowledgement moves the drain, as long as nothing starts or
aborts a request. -/
theorem Draining.step {mailbox : Mailbox} (draining : Draining pending response acks mailbox)
    {access : Access} (quiet : access.isControl = false) :
    Draining pending response (acks + if access.isAck then 1 else 0)
      (mailbox.step table access).1 := by
  rcases mailbox.step_cases table access with
    ⟨val, rfl, control, _⟩ | ⟨val, rfl, stepped⟩ | ⟨rfl, stepped⟩ | ⟨_, _, silent, stepped⟩
  · rw [Access.isControl, control] at quiet
    cases quiet
  · rw [stepped]
    exact draining.push val
  · rw [stepped]
    exact draining.ack
  · rw [stepped, silent]
    exact draining

theorem Draining.after (accesses : List Access) {mailbox : Mailbox}
    (draining : Draining pending response acks mailbox)
    (quiet : ∀ access ∈ accesses, access.isControl = false) :
    Draining pending response (acks + accesses.countP Access.isAck)
      (mailbox.after table accesses) := by
  induction accesses generalizing acks mailbox with
  | nil => exact draining
  | cons access rest ih =>
      have stepped := draining.step table (quiet access List.mem_cons_self)
      have continued := ih stepped fun other membership =>
        quiet other (List.mem_cons_of_mem _ membership)
      rw [Mailbox.after_cons, List.countP_cons, Nat.add_comm (List.countP _ _), ← Nat.add_assoc]
      exact continued

/-- What the two readable registers show while a response drains. -/
theorem Draining.reads {mailbox : Mailbox} (draining : Draining pending response acks mailbox) :
    mailbox.read doeRegStatus = (if acks < response.length then pending.code else 0) ∧
      mailbox.read doeRegRead = response[acks]?.getD 0xFFFFFFFF := by
  rcases draining with ⟨remaining, status⟩
  constructor
  · rw [Mailbox.read, if_pos rfl, status]
    by_cases unfinished : acks < response.length
    · rw [if_pos unfinished, if_pos unfinished]
    · rw [if_neg unfinished, if_neg unfinished]
      rfl
  · rw [Mailbox.read, if_neg (by decide), if_pos rfl, remaining, List.head?_drop]

/-- With everything acknowledged and nothing written the mailbox is empty. -/
theorem Draining.finished {mailbox : Mailbox} (draining : Draining pending response acks mailbox)
    (acked : response.length ≤ acks) (unwritten : mailbox.request = []) :
    mailbox = Mailbox.empty := by
  rcases draining with ⟨remaining, status⟩
  apply Mailbox.ext
  · rw [status, if_neg (Nat.not_lt.mpr acked)]
    rfl
  · exact unwritten
  · rw [remaining, List.drop_eq_nil_iff.mpr acked]
    rfl

/-- Read and acknowledge a number of dwords. -/
def drain (count : Nat) : List Access :=
  (List.replicate count [Access.read doeRegRead, .write doeRegRead 0]).flatten

theorem drain_succ (count : Nat) :
    drain (count + 1) = .read doeRegRead :: .write doeRegRead 0 :: drain count := rfl

/-- A drain neither controls the mailbox nor writes a request. -/
theorem drain_quiet (count : Nat) :
    ∀ access ∈ drain count, access.isControl = false ∧ access.isPush = false := by
  induction count with
  | zero => exact List.forall_mem_nil _
  | succ count ih =>
      rw [drain_succ]
      exact List.forall_mem_cons.mpr ⟨⟨rfl, rfl⟩, List.forall_mem_cons.mpr ⟨⟨rfl, rfl⟩, ih⟩⟩

/-- Reading and acknowledging part of a response yields its dwords in order. -/
theorem Draining.drained (count : Nat) {mailbox : Mailbox}
    (draining : Draining pending response acks mailbox)
    (within : acks + count ≤ response.length) :
    (Transducer.specRun (Mailbox.step table) mailbox (drain count)).2 =
        ((response.drop acks).take count).flatMap (fun word => [some word, none]) ∧
      Draining pending response (acks + count) (mailbox.after table (drain count)) := by
  induction count generalizing acks mailbox with
  | zero => exact ⟨rfl, draining⟩
  | succ count ih =>
      have bound : acks < response.length := by omega
      have word : mailbox.read doeRegRead = response[acks] := by
        rw [draining.reads.2, List.getElem?_eq_getElem bound, Option.getD_some]
      have acked : Draining pending response (acks + 1) (mailbox.write table doeRegRead 0) :=
        draining.ack
      rcases ih acked (by omega) with ⟨outputs, final⟩
      constructor
      · rw [drain_succ, Transducer.specRun_cons, Transducer.specRun_cons,
          List.drop_eq_getElem_cons bound, List.take_succ_cons, List.flatMap_cons, ← outputs,
          ← word]
        rfl
      · rw [Nat.add_right_comm] at final
        exact final

/-- What the registers of the emulator show while a response drains. -/
theorem Draining.observed {doe : Doe} {abstract : Mailbox}
    (draining : Draining pending response 0 abstract) (represents : Represents doe abstract)
    {accesses : List Access} (quiet : ∀ access ∈ accesses, access.isControl = false) :
    ∃ later outputs, (mailbox table).run doe accesses = .ok (later, outputs) ∧
      regRead later doeRegStatus =
        .ok (if accesses.countP Access.isAck < response.length then pending.code else 0) ∧
      regRead later doeRegRead =
        .ok (response[accesses.countP Access.isAck]?.getD 0xFFFFFFFF) := by
  rcases (mailbox_refines table).run represents accesses with ⟨later, ran, laterRep⟩
  have reads := (draining.after table accesses quiet).reads
  rw [Nat.zero_add] at reads
  refine ⟨later, _, ran, ?_, ?_⟩
  · rw [regRead_refines laterRep]
    exact congrArg Except.ok reads.1
  · rw [regRead_refines laterRep]
    exact congrArg Except.ok reads.2

/-- Reading and acknowledging as many dwords as a response has consumes it. -/
theorem Draining.consumed {doe : Doe} {abstract : Mailbox}
    (draining : Draining pending response 0 abstract) (represents : Represents doe abstract) :
    ∃ drained, (mailbox table).run doe (drain response.length) =
        .ok (drained, response.flatMap fun word => [some word, none]) ∧
      drained.status = 0 ∧ drained.rspIdx = 0 ∧ drained.rspLen = 0 := by
  rcases (mailbox_refines table).run represents (drain response.length) with
    ⟨drained, ran, drainedRep⟩
  rcases draining.drained table response.length (Nat.le_of_eq (Nat.zero_add _)) with
    ⟨outputs, exhausted, status⟩
  rw [Nat.zero_add, List.drop_length] at exhausted
  rw [Nat.zero_add, if_neg (Nat.lt_irrefl _)] at status
  have counters := (exhausted ▸ drainedRep.response).counters_of_nil
  refine ⟨drained, ?_, ?_, counters⟩
  · rw [ran, outputs, List.drop_zero, List.take_length]
  · rw [drainedRep.status]
    change (Mailbox.status (Mailbox.after table _ _)).code = 0
    rw [status]
    rfl

/-- What a starting control write that ended ready has published. -/
theorem go_ready {doe next : Doe} {mailbox : Mailbox} {val : Dword}
    (represents : Represents doe mailbox) (go : hasGo val = true)
    (started : regWrite table doe doeRegCtrl val = .ok next)
    (ready : next.status = doeStatusDataObjectReady) :
    ∃ (first : Dword) (rest : List Dword) (response : Response),
      mailbox.request = first :: rest ∧
      headerVid first = doeVidPcisig ∧ headerType first = response.type ∧
      next.rspBuf.toList.take next.rspLen.toNat = response.dwords ∧
      Represents next (mailbox.control table val) ∧
      Draining .ready response.dwords 0 (mailbox.control table val) := by
  rw [regWrite_go table doe go] at started
  rw [Mailbox.control, if_pos go]
  cases abort : hasAbort val with
  | true =>
      -- an abort in the same write empties the request, which is then refused
      rw [abort, if_pos rfl, go_fails (abort_represents doe).request rfl] at started
      cases started
      exact absurd ready error_ne_ready
  | false =>
      rw [abort, if_neg Bool.false_ne_true] at started
      rw [if_neg Bool.false_ne_true]
      cases answered : answer table mailbox.request with
      | none =>
          rw [go_fails represents.request answered] at started
          cases started
          exact absurd ready error_ne_ready
      | some response =>
          rcases go_publishes represents.request answered with ⟨rspBuf, published, stored⟩
          rw [published] at started
          cases started
          rcases answer_eq_some answered with
            ⟨first, second, third, rest, dwords, served, respondEq⟩
          rw [Mailbox.go, answered]
          refine ⟨first, _, response, dwords, served.1, ?_, stored, ?_, rfl, ?_⟩
          · rw [respondEq, respond_type]
          · exact publish_represents doe response stored rfl rfl rfl
          · rw [if_pos (List.length_pos_iff.mpr response.dwords_ne_nil)]

/-- A response is delivered whole, in order and exactly once.  While fewer dwords
are acknowledged than it has, the status stays ready and the read mailbox shows
the next one; from the last acknowledgement on the mailbox is idle and drained.
Its header repeats the vendor and type of the request, its second dword is its
length, and acknowledging that many dwords consumes it exactly. -/
theorem response_delivered {doe next : Doe} {val : Dword} (reached : Reachable table doe)
    (go : hasGo val = true) (started : regWrite table doe doeRegCtrl val = .ok next)
    (ready : next.status = doeStatusDataObjectReady) :
    ∃ (response : List Dword) (first second : Dword) (rest : List Dword),
      next.rspBuf.toList.take next.rspLen.toNat = response ∧
      response = first :: second :: rest ∧
      (∀ accesses : List Access, (∀ access ∈ accesses, access.isControl = false) →
        ∃ later outputs, (mailbox table).run next accesses = .ok (later, outputs) ∧
          regRead later doeRegStatus =
            .ok (if accesses.countP Access.isAck < response.length
              then doeStatusDataObjectReady else 0) ∧
          regRead later doeRegRead =
            .ok (response[accesses.countP Access.isAck]?.getD 0xFFFFFFFF)) ∧
      0 < doe.reqLen ∧
      headerVid first = headerVid doe.reqBuf[0] ∧
      headerType first = headerType doe.reqBuf[0] ∧
      second.toNat = response.length ∧
      ∃ drained, (mailbox table).run next (drain second.toNat) =
          .ok (drained, response.flatMap fun word => [some word, none]) ∧
        drained.status = 0 ∧ drained.rspIdx = 0 ∧ drained.rspLen = 0 := by
  rcases reached.represents with ⟨abstract, represents⟩
  rcases go_ready table represents go started ready with
    ⟨requestHead, requestRest, response, dwords, vendor, type, stored, nextRep, draining⟩
  have nonempty : 0 < doe.reqLen := by
    rw [represents.request.length, dwords, List.length_cons]
    omega
  have headWord : doe.reqBuf[0] = requestHead := (dwords ▸ represents.request).first
  have fits : response.dwords.length ≤ doeBufDwords := by
    rw [← stored, List.length_take, Vector.length_toList]
    exact Nat.min_le_right _ _
  have counted := response.toNat_lengthWord fits
  refine ⟨response.dwords, header doeVidPcisig response.type,
    BitVec.ofNat 32 (2 + response.payload.length), response.payload, stored, rfl, ?_,
    nonempty, ?_, ?_, counted, ?_⟩
  · intro accesses quiet
    exact draining.observed table nextRep quiet
  · rw [headerVid_header, headWord, vendor]
  · rw [headerType_header, headWord, type]
  · rw [counted]
    exact draining.consumed table nextRep

theorem discovery_delivered :
    ∃ doe next, Reachable protocols doe ∧ hasGo doeCtrlGo = true ∧
      regWrite protocols doe doeRegCtrl doeCtrlGo = .ok next ∧
      next.status = doeStatusDataObjectReady ∧
      ∃ (second : Dword) (drained : Doe) (outputs : List (Option Dword)),
        (mailbox protocols).run next (drain second.toNat) = .ok (drained, outputs) ∧
        drained.status = 0 := by
  rcases discovery_ready with ⟨doe, next, reached, started, ready, _⟩
  rcases response_delivered protocols reached rfl started ready with
    ⟨_, _, second, _, _, _, _, _, _, _, _, drained, ran, idle, _⟩
  exact ⟨doe, next, reached, rfl, started, ready, second, drained, _, ran, idle⟩

end RemoteRootport.DoeEmu
