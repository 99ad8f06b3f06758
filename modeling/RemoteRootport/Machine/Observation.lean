import RemoteRootport.Machine.Transducer

/-!
# States that cannot be told apart

Two states of a total machine are alike if every list of inputs produces the same
outputs from both.  A bisimulation proves states alike; in the other direction
alike states stay alike under every input, so that they can be probed.
-/

namespace RemoteRootport.Machine.Transducer

variable {State Input Output Fault Abstract : Type}
  {spec : Abstract → Input → Abstract × Output} {left right : Abstract}

/-- No list of inputs tells the two states apart. -/
def Alike (spec : Abstract → Input → Abstract × Output) (left right : Abstract) : Prop :=
  ∀ inputs, (specRun spec left inputs).2 = (specRun spec right inputs).2

namespace Alike

/-- The next output is the same. -/
theorem output (alike : Alike spec left right) (input : Input) :
    (spec left input).2 = (spec right input).2 :=
  (List.cons.inj (alike [input])).1

/-- Alike states stay alike. -/
theorem step (alike : Alike spec left right) (input : Input) :
    Alike spec (spec left input).1 (spec right input).1 := by
  intro inputs
  exact (List.cons.inj (alike (input :: inputs))).2

end Alike

/-- States related by a bisimulation are alike. -/
theorem alike_of_bisimulation (related : Abstract → Abstract → Prop)
    (bisimulation : ∀ left right, related left right → ∀ input,
      (spec left input).2 = (spec right input).2 ∧
        related (spec left input).1 (spec right input).1)
    (start : related left right) : Alike spec left right := by
  intro inputs
  induction inputs generalizing left right with
  | nil => rfl
  | cons input rest ih =>
      rcases bisimulation left right start input with ⟨same, kept⟩
      rw [specRun_cons, specRun_cons, same, ih kept]

/-- States of a machine that refines a total one answer alike exactly if those they
stand for are alike. -/
theorem Refines.alike_iff {machine : Transducer State Input Output Fault}
    {related : State → Abstract → Prop} (refines : machine.Refines spec related)
    {first second : State} (firstRelated : related first left)
    (secondRelated : related second right) :
    (∀ inputs, ∃ firstFinal secondFinal outputs,
        machine.run first inputs = .ok (firstFinal, outputs) ∧
        machine.run second inputs = .ok (secondFinal, outputs)) ↔
      Alike spec left right := by
  constructor
  · intro same inputs
    rcases same inputs with ⟨firstFinal, secondFinal, outputs, firstRun, secondRun⟩
    rcases refines.run firstRelated inputs with ⟨_, ran, -⟩
    rcases refines.run secondRelated inputs with ⟨_, again, -⟩
    rw [firstRun] at ran
    rw [secondRun] at again
    have firstOutputs := (Prod.mk.inj (Except.ok.inj ran)).2
    have secondOutputs := (Prod.mk.inj (Except.ok.inj again)).2
    rw [← firstOutputs, ← secondOutputs]
  · intro alike inputs
    rcases refines.run firstRelated inputs with ⟨firstFinal, firstRun, -⟩
    rcases refines.run secondRelated inputs with ⟨secondFinal, secondRun, -⟩
    rw [← alike inputs] at secondRun
    exact ⟨firstFinal, secondFinal, _, firstRun, secondRun⟩

end RemoteRootport.Machine.Transducer
