import Mathlib.Logic.Basic

/-!
# Deterministic machines with faults

A `Transducer` consumes one input at a time, answers each with an output and may
fault.  A run is the left-to-right iteration over a list of inputs.  Two rules
carry the developments above: an invariant that every step keeps holds in every
reachable state, and a step-wise refinement of a total specification transports
whole runs, outputs included, and with them the absence of faults.
-/

namespace RemoteRootport.Machine

/-- A machine whose step may fault. -/
structure Transducer (State Input Output Fault : Type) where
  step : State → Input → Except Fault (State × Output)

namespace Transducer

variable {State Input Output Fault Abstract : Type}

/-- Feed a list of inputs, collecting the outputs in order. -/
def run (machine : Transducer State Input Output Fault) :
    State → List Input → Except Fault (State × List Output)
  | state, [] => .ok (state, [])
  | state, input :: rest =>
      match machine.step state input with
      | .error fault => .error fault
      | .ok (next, output) =>
          match run machine next rest with
          | .error fault => .error fault
          | .ok (final, outputs) => .ok (final, output :: outputs)

variable {machine : Transducer State Input Output Fault}

@[simp] theorem run_nil (state : State) : machine.run state [] = .ok (state, []) := rfl

theorem run_cons_iff {state final : State} {input : Input} {rest : List Input}
    {outputs : List Output} :
    machine.run state (input :: rest) = .ok (final, outputs) ↔
      ∃ next output later, machine.step state input = .ok (next, output) ∧
        machine.run next rest = .ok (final, later) ∧ outputs = output :: later := by
  rw [run]
  cases stepped : machine.step state input with
  | error fault => simp
  | ok result =>
      rcases result with ⟨next, output⟩
      cases continued : machine.run next rest with
      | error fault => simp [continued]
      | ok result =>
          rcases result with ⟨reached, later⟩
          simp only [continued, Except.ok.injEq, Prod.mk.injEq]
          constructor
          · intro same
            rcases same with ⟨rfl, rfl⟩
            exact ⟨next, output, later, ⟨rfl, rfl⟩, continued, rfl⟩
          · intro parts
            rcases parts with ⟨other, otherOutput, others, ⟨rfl, rfl⟩, again, rfl⟩
            rw [continued] at again
            cases again
            exact ⟨rfl, rfl⟩

/-- States some input list leads to without a fault. -/
def Reachable (machine : Transducer State Input Output Fault) (start state : State) : Prop :=
  ∃ inputs outputs, machine.run start inputs = .ok (state, outputs)

theorem Reachable.refl (start : State) : machine.Reachable start start :=
  ⟨[], [], rfl⟩

/-- Invariant rule: what every step keeps, every run keeps. -/
theorem run_invariant (property : State → Prop)
    (kept : ∀ state input next output, property state →
      machine.step state input = .ok (next, output) → property next)
    {state final : State} {inputs : List Input} {outputs : List Output}
    (initially : property state)
    (ran : machine.run state inputs = .ok (final, outputs)) : property final := by
  induction inputs generalizing state outputs with
  | nil =>
      cases ran
      exact initially
  | cons input rest ih =>
      rcases run_cons_iff.mp ran with ⟨next, output, later, stepped, continued, rfl⟩
      exact ih (kept state input next output initially stepped) continued

/-- Invariant rule for reachable states. -/
theorem Reachable.invariant (property : State → Prop)
    (kept : ∀ state input next output, property state →
      machine.step state input = .ok (next, output) → property next)
    {start state : State} (initially : property start)
    (reached : machine.Reachable start state) : property state := by
  rcases reached with ⟨inputs, outputs, ran⟩
  exact run_invariant property kept initially ran

/-! ## Refinement of a total specification -/

/-- Run of a total machine. -/
def specRun (spec : Abstract → Input → Abstract × Output) :
    Abstract → List Input → Abstract × List Output
  | state, [] => (state, [])
  | state, input :: rest =>
      let stepped := spec state input
      let continued := specRun spec stepped.1 rest
      (continued.1, stepped.2 :: continued.2)

@[simp] theorem specRun_nil (spec : Abstract → Input → Abstract × Output)
    (state : Abstract) : specRun spec state [] = (state, []) := rfl

@[simp] theorem specRun_cons (spec : Abstract → Input → Abstract × Output)
    (state : Abstract) (input : Input) (rest : List Input) :
    specRun spec state (input :: rest) =
      ((specRun spec (spec state input).1 rest).1,
        (spec state input).2 :: (specRun spec (spec state input).1 rest).2) := rfl

theorem specRun_append (spec : Abstract → Input → Abstract × Output)
    (state : Abstract) (first second : List Input) :
    specRun spec state (first ++ second) =
      ((specRun spec (specRun spec state first).1 second).1,
        (specRun spec state first).2 ++
          (specRun spec (specRun spec state first).1 second).2) := by
  induction first generalizing state with
  | nil => simp
  | cons input rest ih => simp [ih]

/-- Every step of the machine is a fault-free step of the specification with the
same output, and keeps the states related. -/
def Refines (machine : Transducer State Input Output Fault)
    (spec : Abstract → Input → Abstract × Output) (related : State → Abstract → Prop) :
    Prop :=
  ∀ state abstract input, related state abstract →
    ∃ next, machine.step state input = .ok (next, (spec abstract input).2) ∧
      related next (spec abstract input).1

theorem Refines.run {spec : Abstract → Input → Abstract × Output}
    {related : State → Abstract → Prop} (refines : machine.Refines spec related)
    {state : State} {abstract : Abstract} (start : related state abstract)
    (inputs : List Input) :
    ∃ final, machine.run state inputs = .ok (final, (specRun spec abstract inputs).2) ∧
      related final (specRun spec abstract inputs).1 := by
  induction inputs generalizing state abstract with
  | nil => exact ⟨state, rfl, start⟩
  | cons input rest ih =>
      rcases refines state abstract input start with ⟨next, stepped, nextRelated⟩
      rcases ih nextRelated with ⟨final, ran, finalRelated⟩
      exact ⟨final, run_cons_iff.mpr ⟨next, _, _, stepped, ran, rfl⟩, finalRelated⟩

/-- Every reachable state of a refining machine represents some abstract one. -/
theorem Refines.related_of_reachable {spec : Abstract → Input → Abstract × Output}
    {related : State → Abstract → Prop} (refines : machine.Refines spec related)
    {start state : State} {abstract : Abstract} (startRelated : related start abstract)
    (reached : machine.Reachable start state) : ∃ represented, related state represented := by
  apply Reachable.invariant (fun state => ∃ represented, related state represented)
    _ ⟨abstract, startRelated⟩ reached
  intro state input next output ⟨represented, related⟩ stepped
  rcases refines state represented input related with ⟨other, refined, nextRelated⟩
  rw [stepped] at refined
  cases refined
  exact ⟨_, nextRelated⟩

/-- Two states that represent the same abstract state answer every input list
alike. -/
theorem Refines.indistinguishable {spec : Abstract → Input → Abstract × Output}
    {related : State → Abstract → Prop} (refines : machine.Refines spec related)
    {left right : State} {abstract : Abstract} (leftRelated : related left abstract)
    (rightRelated : related right abstract) (inputs : List Input) :
    ∃ leftFinal rightFinal outputs, machine.run left inputs = .ok (leftFinal, outputs) ∧
      machine.run right inputs = .ok (rightFinal, outputs) := by
  rcases refines.run leftRelated inputs with ⟨leftFinal, leftRun, -⟩
  rcases refines.run rightRelated inputs with ⟨rightFinal, rightRun, -⟩
  exact ⟨leftFinal, rightFinal, _, leftRun, rightRun⟩

end Transducer

end RemoteRootport.Machine
