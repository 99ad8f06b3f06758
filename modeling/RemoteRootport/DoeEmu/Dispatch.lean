import RemoteRootport.DoeEmu.Discovery

/-!
# What a started request is judged by

The dispatch of `doe_process` looks at the first header dword and at the number
of dwords the buffer took.  It consults neither the table that discovery
enumerates nor the length field of the second header dword.  So a protocol can be
advertised and refused, and a data object that is cut off or declares another
length is answered as if it were whole.
-/

namespace RemoteRootport.DoeEmu

open RemoteRootport.Bytes
open RemoteRootport.Machine

variable (table : List Protocol)

/-! ## Submitting a request -/

/-- Write the dwords of a request, then the control register. -/
def submit (words : List Dword) (val : Dword) : List Access :=
  words.map (Access.write doeRegWrite) ++ [.write doeRegCtrl val]

/-- A request of at least three dwords for a protocol that is served. -/
def Answerable : List Dword → Prop
  | first :: _ :: _ :: _ => Served (headerVid first) (headerType first)
  | _ => False

theorem collect_writes (words written : List Dword) :
    (words.map (Access.write doeRegWrite)).foldl collect written = written ++ words := by
  induction words generalizing written with
  | nil => exact (List.append_nil written).symm
  | cons word rest ih =>
      change (rest.map (Access.write doeRegWrite)).foldl collect (written ++ [word]) = _
      rw [ih, List.append_assoc]
      rfl

/-- Only the first three dwords decide, so cutting a request at the buffer size
does not matter. -/
theorem answer_take_ne_none_iff (words : List Dword) :
    answer table (words.take doeBufDwords) ≠ none ↔ Answerable words := by
  match words with
  | [] | [_] | [_, _] => exact iff_of_false (fun answered => answered rfl) id
  | first :: second :: third :: rest =>
      change (if Served (headerVid first) (headerType first) then
        some (respond table (headerType first) third) else none) ≠ none ↔ _
      rw [ne_eq, ite_eq_right_iff, Classical.not_imp]
      exact and_iff_left (Option.some_ne_none _)

/-- A submitted request is processed with what the buffer took of it. -/
theorem Mailbox.after_submit {mailbox : Mailbox} (unwritten : mailbox.request = [])
    (words : List Dword) {val : Dword} (go : hasGo val = true) (kept : hasAbort val = false) :
    ∃ written : Mailbox, written.request = words.take doeBufDwords ∧
      mailbox.after table (submit words val) = written.go table := by
  refine ⟨mailbox.after table (words.map (Access.write doeRegWrite)), ?_, ?_⟩
  · rw [Mailbox.request_after table _ mailbox [] (by rw [unwritten, List.take_nil]),
      collect_writes, List.nil_append]
  · rw [submit, Mailbox.after_append]
    change Mailbox.control table _ val = _
    rw [Mailbox.control, kept, go]
    rfl

theorem Mailbox.status_go (mailbox : Mailbox) :
    (answer table mailbox.request ≠ none → (mailbox.go table).status = .ready) ∧
      (answer table mailbox.request = none → (mailbox.go table).status = .error) := by
  rw [Mailbox.go]
  cases answer table mailbox.request with
  | none => exact ⟨fun answered => absurd rfl answered, fun _ => rfl⟩
  | some response => exact ⟨fun _ => rfl, fun refused => by cases refused⟩

/-- A submitted request ends ready if it is answerable and in an error otherwise. -/
theorem submit_status {doe : Doe} (reached : Reachable table doe) (unwritten : doe.reqLen = 0)
    (words : List Dword) (val : Dword) (go : hasGo val = true) (kept : hasAbort val = false) :
    ∃ next outputs, (mailbox table).run doe (submit words val) = .ok (next, outputs) ∧
      (Answerable words → next.status = doeStatusDataObjectReady) ∧
      (¬Answerable words → next.status = doeStatusError) := by
  rcases reached.represents with ⟨abstract, represents⟩
  rcases (mailbox_refines table).run represents (submit words val) with ⟨next, ran, nextRep⟩
  rcases Mailbox.after_submit table (represents.request.eq_nil unwritten) words go kept with
    ⟨written, request, after⟩
  have status := written.status_go table
  have decided := answer_take_ne_none_iff table words
  rw [← request] at decided
  have code : next.status = (written.go table).status.code := by
    rw [← after]
    exact nextRep.status
  refine ⟨next, _, ran, ?_, ?_⟩
  · intro answerable
    rw [code, status.1 (decided.mpr answerable)]
    rfl
  · intro refused
    rw [code, status.2 (not_ne_iff.mp (mt decided.mp refused))]
    rfl

/-! ## The advertised protocols -/

/-- The protocol a header dword asks for. -/
def requested (first : Dword) : Protocol where
  vid := headerVid first
  type := headerType first

/-- The row that discovery enumerates and `doe_process` does not know. -/
def cxlTableAccess : Protocol where
  vid := doeVidCxl
  type := doeTypeCxlTableAccess

theorem mem_protocols_iff (row : Protocol) :
    row ∈ protocols ↔ Served row.vid row.type ∨ row = cxlTableAccess := by
  rcases row with ⟨vid, type⟩
  simp only [protocols, Served, cxlTableAccess, List.mem_cons, Protocol.mk.injEq,
    List.not_mem_nil, or_false, and_or_left, or_assoc]

theorem cxlTableAccess_not_served : ¬Served cxlTableAccess.vid cxlTableAccess.type := by
  decide

/-- A request of three or more dwords ends ready if its protocol is in the table
and in an error if it is not, exactly when it does not ask for the table access
protocol of CXL. -/
theorem advertised_served_iff {doe : Doe} (reached : Reachable protocols doe)
    (unwritten : doe.reqLen = 0) (first second third : Dword) (rest : List Dword) (val : Dword)
    (go : hasGo val = true) (kept : hasAbort val = false) :
    ∃ next outputs,
      (mailbox protocols).run doe (submit (first :: second :: third :: rest) val) =
        .ok (next, outputs) ∧
      (((requested first ∈ protocols → next.status = doeStatusDataObjectReady) ∧
          (requested first ∉ protocols → next.status = doeStatusError)) ↔
        requested first ≠ cxlTableAccess) := by
  rcases submit_status protocols reached unwritten (first :: second :: third :: rest) val go
    kept with ⟨next, outputs, ran, ready, error⟩
  refine ⟨next, outputs, ran, ?_⟩
  constructor
  · intro agrees cxl
    have advertised := agrees.1 ((mem_protocols_iff _).mpr (Or.inr cxl))
    have refused : ¬Served (requested first).vid (requested first).type := by
      rw [cxl]
      exact cxlTableAccess_not_served
    rw [error refused] at advertised
    exact error_ne_ready advertised
  · intro other
    constructor
    · intro listed
      exact ready (((mem_protocols_iff _).mp listed).resolve_right other)
    · intro unlisted
      exact error fun served => unlisted ((mem_protocols_iff _).mpr (Or.inl served))

theorem discovery_advertised_served :
    hasGo doeCtrlGo = true ∧ hasAbort doeCtrlGo = false ∧
      ∃ next outputs,
        (mailbox protocols).run Doe.zero (submit [1, 3, 0] doeCtrlGo) = .ok (next, outputs) ∧
        (requested 1 ∈ protocols → next.status = doeStatusDataObjectReady) := by
  rcases advertised_served_iff (Transducer.Reachable.refl Doe.zero) rfl 1 3 0 [] doeCtrlGo rfl
      rfl with
    ⟨next, outputs, ran, agrees⟩
  exact ⟨rfl, rfl, next, outputs, ran, (agrees.mpr (by decide)).1⟩

/-- A CXL table access request is refused although discovery lists its protocol. -/
theorem cxl_advertised_refused :
    requested 0x00021E98 ∈ protocols ∧
      ∃ next outputs,
        (mailbox protocols).run Doe.zero (submit [0x00021E98, 3, 0] doeCtrlGo) =
          .ok (next, outputs) ∧
        next.status = doeStatusError := by
  rcases submit_status protocols (Transducer.Reachable.refl Doe.zero) rfl [0x00021E98, 3, 0]
      doeCtrlGo rfl rfl with
    ⟨next, outputs, ran, -, error⟩
  exact ⟨by decide, next, outputs, ran, error cxlTableAccess_not_served⟩

/-! ## The declared length -/

/-- The length a second header dword declares; zero stands for the largest one. -/
def declaredLength (second : Dword) : Nat :=
  if second &&& pciDoeHeader2Length = 0 then 2 ^ 18
  else (second &&& pciDoeHeader2Length).toNat

/-- A data object that fits the mailbox and has the length it declares. -/
def WellFramed (words : List Dword) : Prop :=
  2 ≤ words.length ∧ words.length ≤ doeBufDwords ∧
    declaredLength (words.getD 1 0) = words.length

instance (words : List Dword) : Decidable (WellFramed words) :=
  inferInstanceAs (Decidable (_ ∧ _ ∧ _))

/-- A data object is answered only if it is well framed, and ends in an error if
it is not, exactly when no answerable request is ill framed. -/
theorem framing_respected_iff {doe : Doe} (reached : Reachable table doe)
    (unwritten : doe.reqLen = 0) (words : List Dword) (val : Dword) (go : hasGo val = true)
    (kept : hasAbort val = false) :
    ∃ next outputs, (mailbox table).run doe (submit words val) = .ok (next, outputs) ∧
      (((next.status = doeStatusDataObjectReady → WellFramed words) ∧
          (¬WellFramed words → next.status = doeStatusError)) ↔
        (Answerable words → WellFramed words)) := by
  rcases submit_status table reached unwritten words val go kept with
    ⟨next, outputs, ran, ready, error⟩
  refine ⟨next, outputs, ran, ?_⟩
  constructor
  · intro respected answerable
    exact respected.1 (ready answerable)
  · intro framed
    constructor
    · intro answered
      by_contra illFramed
      rw [error (mt framed illFramed)] at answered
      exact error_ne_ready answered
    · intro illFramed
      exact error (mt framed illFramed)

theorem discovery_framing_respected :
    WellFramed [1, 3, 0] ∧
      ∃ next outputs,
        (mailbox protocols).run Doe.zero (submit [1, 3, 0] doeCtrlGo) = .ok (next, outputs) ∧
        (next.status = doeStatusDataObjectReady → WellFramed [1, 3, 0]) := by
  rcases framing_respected_iff protocols (Transducer.Reachable.refl Doe.zero) rfl [1, 3, 0]
      doeCtrlGo rfl rfl with
    ⟨next, outputs, ran, respected⟩
  exact ⟨by decide, next, outputs, ran, (respected.mpr fun _ => by decide).1⟩

/-- A discovery request of three dwords that declares five is answered. -/
theorem wrong_length_answered :
    ¬WellFramed [1, 5, 0] ∧
      ∃ next outputs,
        (mailbox protocols).run Doe.zero (submit [1, 5, 0] doeCtrlGo) = .ok (next, outputs) ∧
        next.status = doeStatusDataObjectReady := by
  rcases submit_status protocols (Transducer.Reachable.refl Doe.zero) rfl [1, 5, 0] doeCtrlGo
      rfl rfl with
    ⟨next, outputs, ran, ready, -⟩
  exact ⟨by decide, next, outputs, ran, ready ⟨rfl, Or.inl rfl⟩⟩

end RemoteRootport.DoeEmu
