import RemoteRootport.Machine.Transducer

/-!
# Interleaved inputs

Two input lists may be fed to one machine in many orders.  When every input of one
list commutes with every input of the other, all orders that keep each list's own
order lead to the same state, and the outputs are interleaved as the inputs are.
-/

namespace RemoteRootport.Machine

/-- A list that contains two others, each in its own order, and nothing else. -/
inductive Interleaving {α : Type} : List α → List α → List α → Prop where
  | nil : Interleaving [] [] []
  | left {x : α} {xs ys zs : List α} :
      Interleaving xs ys zs → Interleaving (x :: xs) ys (x :: zs)
  | right {y : α} {xs ys zs : List α} :
      Interleaving xs ys zs → Interleaving xs (y :: ys) (y :: zs)

namespace Transducer

variable {State Input Output Fault : Type} {machine : Transducer State Input Output Fault}

/-- Performing `second` before `first` makes no difference to the state or to
either output. -/
def Commutes (machine : Transducer State Input Output Fault) (first second : Input) : Prop :=
  ∀ state middle final firstOutput secondOutput,
    machine.step state first = .ok (middle, firstOutput) →
    machine.step middle second = .ok (final, secondOutput) →
    ∃ other, machine.step state second = .ok (other, secondOutput) ∧
      machine.step other first = .ok (final, firstOutput)

/-- An input that commutes with all inputs before it may be performed first. -/
theorem run_advance {state final : State} {xs ys : List Input} {y : Input}
    {outputs : List Output} (commutes : ∀ x ∈ xs, machine.Commutes x y)
    (ran : machine.run state (xs ++ y :: ys) = .ok (final, outputs)) :
    ∃ other output early late, machine.step state y = .ok (other, output) ∧
      machine.run other (xs ++ ys) = .ok (final, early ++ late) ∧
      early.length = xs.length ∧ outputs = early ++ output :: late := by
  induction xs generalizing state outputs with
  | nil =>
      rcases run_cons_iff.mp ran with ⟨next, output, later, stepped, continued, rfl⟩
      exact ⟨next, output, [], later, stepped, continued, rfl, rfl⟩
  | cons x xs ih =>
      rcases run_cons_iff.mp ran with ⟨next, first, later, stepped, continued, rfl⟩
      rcases ih (fun other membership => commutes other (List.mem_cons_of_mem _ membership))
          continued with
        ⟨middle, output, early, late, advanced, rest, counted, rfl⟩
      rcases commutes x List.mem_cons_self state next middle first output stepped advanced with
        ⟨other, performed, followed⟩
      refine ⟨other, output, first :: early, late, performed, ?_, ?_, rfl⟩
      · exact run_cons_iff.mpr ⟨middle, first, early ++ late, followed, rest, rfl⟩
      · rw [List.length_cons, List.length_cons, counted]

/-- Every interleaving of two commuting lists leads where running one after the
other leads, with the outputs interleaved alike. -/
theorem run_interleaving {xs ys zs : List Input} (interleaving : Interleaving xs ys zs)
    (commutes : ∀ x ∈ xs, ∀ y ∈ ys, machine.Commutes x y) {state final : State}
    {early late : List Output} (counted : early.length = xs.length)
    (ran : machine.run state (xs ++ ys) = .ok (final, early ++ late)) :
    ∃ outputs, machine.run state zs = .ok (final, outputs) ∧
      Interleaving early late outputs := by
  induction interleaving generalizing state early late with
  | nil =>
      cases List.length_eq_zero_iff.mp counted
      cases ran
      exact ⟨[], rfl, .nil⟩
  | @left x xs ys zs _ ih =>
      cases early with
      | nil => cases counted
      | cons output early =>
          rcases run_cons_iff.mp ran with ⟨next, first, later, stepped, continued, same⟩
          cases same
          rcases ih (fun other membership => commutes other (List.mem_cons_of_mem _ membership))
              (Nat.succ.inj counted) continued with
            ⟨outputs, followed, interleaved⟩
          exact ⟨output :: outputs,
            run_cons_iff.mpr ⟨next, output, outputs, stepped, followed, rfl⟩, interleaved.left⟩
  | @right y xs ys zs _ ih =>
      rcases run_advance (fun x membership => commutes x membership y List.mem_cons_self) ran with
        ⟨other, output, before, behind, performed, rest, length, outputs⟩
      rcases List.append_inj outputs (counted.trans length.symm) with ⟨rfl, rfl⟩
      rcases ih (fun x membership other within =>
          commutes x membership other (List.mem_cons_of_mem _ within)) counted rest with
        ⟨later, followed, interleaved⟩
      exact ⟨output :: later,
        run_cons_iff.mpr ⟨other, output, later, performed, followed, rfl⟩, interleaved.right⟩

end Transducer

end RemoteRootport.Machine
