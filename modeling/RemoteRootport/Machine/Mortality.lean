import Mathlib.Data.Finset.Card
import RemoteRootport.Machine.Schedule

/-!
# Processes that may end

A process of a scheduled system may end at any point: a call reports a failure, or
the process is killed.  It takes no further action and changes nothing else, so what
a schedule with such ends does is what one without them does in which some processes
are never chosen again.  Safety carries over; what the ends change is where a
schedule gets stuck.
-/

namespace RemoteRootport.Machine

variable {State Action Process : Type}

/-- A system and the processes of it that still run. -/
structure Mortal (State Process : Type) where
  state : State
  living : Finset Process
  deriving DecidableEq

/-- A process takes an action, or it ends. -/
inductive Occurrence (Action Process : Type) where
  | act (action : Action)
  | exit (process : Process)
  deriving DecidableEq, Repr

variable (owner : Action → Process) (step : State → Action → Option State)

/-- No running process has an action left, and none is in a call that will report
the end of what it waits for. -/
structure Stuck (ended : Mortal State Process → Process → Prop)
    (mortal : Mortal State Process) : Prop where
  actions : ∀ action, owner action ∈ mortal.living → step mortal.state action = none
  calls : ∀ process ∈ mortal.living, ¬ended mortal process

variable {owner step} {mortal final : Mortal State Process}

/-- In a stuck system a process that has an action left is not running. -/
theorem Stuck.ended {ended : Mortal State Process → Process → Prop}
    (stuck : Stuck owner step ended mortal) (action : Action)
    (enabled : ∃ next, step mortal.state action = some next) : owner action ∉ mortal.living := by
  intro alive
  rcases enabled with ⟨next, stepped⟩
  have refused := stuck.actions action alive
  rw [stepped] at refused
  cases refused

variable [DecidableEq Process] (owner step)

def mortalStep (mortal : Mortal State Process) :
    Occurrence Action Process → Option (Mortal State Process)
  | .act action =>
      if owner action ∈ mortal.living then
        (step mortal.state action).map fun state => { mortal with state }
      else
        none
  | .exit process =>
      if process ∈ mortal.living then
        some { mortal with living := mortal.living.erase process }
      else
        none

/-- The actions among some occurrences. -/
def actionsOf (occurrences : List (Occurrence Action Process)) : List Action :=
  occurrences.filterMap fun occurrence =>
    match occurrence with
    | .act action => some action
    | .exit _ => none

variable {owner step}

theorem mortalStep_act {next : Mortal State Process} {action : Action}
    (stepped : mortalStep owner step mortal (.act action) = some next) :
    step mortal.state action = some next.state ∧ next.living = mortal.living := by
  rcases Option.ite_none_right_eq_some.mp stepped with ⟨-, moved⟩
  rcases Option.map_eq_some_iff.mp moved with ⟨state, acted, rfl⟩
  exact ⟨acted, rfl⟩

theorem mortalStep_exit {next : Mortal State Process} {process : Process}
    (stepped : mortalStep owner step mortal (.exit process) = some next) :
    next.state = mortal.state ∧ next.living.card + 1 = mortal.living.card := by
  rcases Option.ite_none_right_eq_some.mp stepped with ⟨alive, ended⟩
  cases ended
  exact ⟨rfl, Finset.card_erase_add_one alive⟩

/-- The actions of a schedule with ends are a schedule of their own, and every
process ends at most once. -/
theorem execute_actions {occurrences : List (Occurrence Action Process)}
    (executed : execute (mortalStep owner step) mortal occurrences = some final) :
    execute step mortal.state (actionsOf occurrences) = some final.state ∧
      occurrences.length + final.living.card = (actionsOf occurrences).length + mortal.living.card := by
  induction occurrences generalizing mortal with
  | nil =>
      cases executed
      exact ⟨rfl, rfl⟩
  | cons occurrence rest ih =>
      rcases execute_cons executed with ⟨next, stepped, continued⟩
      rcases ih continued with ⟨acted, counted⟩
      cases occurrence with
      | act action =>
          rcases mortalStep_act stepped with ⟨moved, living⟩
          have first : actionsOf (.act action :: rest : List (Occurrence Action Process)) =
              action :: actionsOf rest := rfl
          constructor
          · rw [first, execute, moved]
            exact acted
          · rw [living] at counted
            rw [first, List.length_cons, List.length_cons]
            omega
      | exit process =>
          rcases mortalStep_exit stepped with ⟨same, fewer⟩
          have skipped : actionsOf (.exit process :: rest : List (Occurrence Action Process)) =
              actionsOf rest := rfl
          constructor
          · rw [skipped, ← same]
            exact acted
          · rw [skipped, List.length_cons]
            omega

end RemoteRootport.Machine
