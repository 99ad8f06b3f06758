import Mathlib.Tactic.ByContra
import Mathlib.Tactic.Push

/-!
# Scheduled systems

A system of processes is a step function that may refuse an action: a process
whose turn it is but that has nothing to do.  A schedule is a list of actions;
quantifying over schedules quantifies over all interleavings.  Invariants may
carry a bound on the work left, which every step has to lower, so that one rule
yields both safety and the length of every run; another rule is for schedules all
of whose actions meet a condition.
-/

namespace RemoteRootport.Machine

variable {State Action : Type} {step : State → Action → Option State}

/-- Perform the actions of a schedule in order. -/
def execute (step : State → Action → Option State) : State → List Action → Option State
  | state, [] => some state
  | state, action :: rest =>
      match step state action with
      | none => none
      | some next => execute step next rest

theorem execute_cons {state final : State} {action : Action} {rest : List Action}
    (executed : execute step state (action :: rest) = some final) :
    ∃ next, step state action = some next ∧ execute step next rest = some final := by
  rw [execute] at executed
  cases stepped : step state action with
  | none =>
      rw [stepped] at executed
      cases executed
  | some next =>
      rw [stepped] at executed
      exact ⟨next, rfl, executed⟩

/-- What follows a schedule goes on from where it ends. -/
theorem execute_append {state middle : State} {first : List Action}
    (executed : execute step state first = some middle) (second : List Action) :
    execute step state (first ++ second) = execute step middle second := by
  induction first generalizing state with
  | nil =>
      cases executed
      rfl
  | cons action rest ih =>
      rcases execute_cons executed with ⟨next, stepped, continued⟩
      rw [List.cons_append, execute, stepped]
      exact ih continued

theorem execute_snoc {state middle final : State} {actions : List Action} {action : Action}
    (executed : execute step state actions = some middle) (stepped : step middle action = some final) :
    execute step state (actions ++ [action]) = some final := by
  rw [execute_append executed, execute, stepped]
  rfl

/-- If no schedule is longer than a bound, one of them cannot go on. -/
theorem execute_maximal {state : State} {bound : Nat}
    (bounded : ∀ actions final, execute step state actions = some final → actions.length ≤ bound) :
    ∃ actions final, execute step state actions = some final ∧
      ∀ action, step final action = none := by
  by_contra endless
  push Not at endless
  have longer (length : Nat) :
      ∃ actions final, execute step state actions = some final ∧ actions.length = length := by
    induction length with
    | zero => exact ⟨[], state, rfl, rfl⟩
    | succ length ih =>
        rcases ih with ⟨actions, middle, executed, counted⟩
        rcases endless actions middle executed with ⟨action, enabled⟩
        rcases Option.ne_none_iff_exists'.mp enabled with ⟨final, stepped⟩
        refine ⟨actions ++ [action], final, execute_snoc executed stepped, ?_⟩
        rw [List.length_append, counted]
        rfl
  rcases longer (bound + 1) with ⟨actions, final, executed, counted⟩
  have short := bounded actions final executed
  omega

/-- If one system follows the steps of another, it follows its schedules. -/
theorem execute_lift {View Call : Type} {viewStep : View → Call → Option View}
    (view : State → View) (call : Action → Call)
    (follows : ∀ state action next, step state action = some next →
      viewStep (view state) (call action) = some (view next))
    {state final : State} {actions : List Action}
    (executed : execute step state actions = some final) :
    execute viewStep (view state) (actions.map call) = some (view final) := by
  induction actions generalizing state with
  | nil =>
      cases executed
      rfl
  | cons action rest ih =>
      rcases execute_cons executed with ⟨next, stepped, continued⟩
      rw [List.map_cons, execute, follows state action next stepped]
      exact ih continued

/-- A schedule of a system is one of any system its steps can be seen as steps
of. -/
theorem execute_map {View Call : Type} {viewStep : View → Call → Option View}
    (view : State → View) (call : Action → Call)
    (commutes : ∀ state action, (step state action).map view = viewStep (view state) (call action))
    {state final : State} {actions : List Action}
    (executed : execute step state actions = some final) :
    execute viewStep (view state) (actions.map call) = some (view final) := by
  apply execute_lift view call _ executed
  intro state action next stepped
  rw [← commutes, stepped, Option.map_some]

/-- What every step keeps while lowering the work left, every schedule keeps, and
no schedule is longer than the work there was. -/
theorem execute_tracked (tracked : State → Nat → Prop)
    (kept : ∀ state work action next, tracked state work → step state action = some next →
      ∃ less, less < work ∧ tracked next less)
    {state final : State} {work : Nat} {actions : List Action} (initially : tracked state work)
    (executed : execute step state actions = some final) :
    ∃ left, actions.length + left ≤ work ∧ tracked final left := by
  induction actions generalizing state work with
  | nil =>
      cases executed
      exact ⟨work, Nat.le_of_eq (Nat.zero_add work), initially⟩
  | cons action rest ih =>
      rcases execute_cons executed with ⟨next, stepped, continued⟩
      rcases kept state work action next initially stepped with ⟨less, lower, nextTracked⟩
      rcases ih nextTracked continued with ⟨left, bound, finalTracked⟩
      refine ⟨left, ?_, finalTracked⟩
      rw [List.length_cons]
      omega

/-- What every step keeps, every schedule keeps. -/
theorem execute_invariant (property : State → Prop)
    (kept : ∀ state action next, property state → step state action = some next → property next)
    {state final : State} {actions : List Action} (initially : property state)
    (executed : execute step state actions = some final) : property final := by
  induction actions generalizing state with
  | nil =>
      cases executed
      exact initially
  | cons action rest ih =>
      rcases execute_cons executed with ⟨next, stepped, continued⟩
      exact ih (kept state action next initially stepped) continued

/-- Every action of a schedule meets a condition in the state it is taken in. -/
def Guarded (step : State → Action → Option State) (guard : State → Action → Prop) :
    State → List Action → Prop
  | _, [] => True
  | state, action :: rest =>
      guard state action ∧
        match step state action with
        | none => True
        | some next => Guarded step guard next rest

/-- What every step that meets the condition keeps, every such schedule keeps. -/
theorem execute_guarded (property : State → Prop) {guard : State → Action → Prop}
    (kept : ∀ state action next, property state → guard state action →
      step state action = some next → property next)
    {state final : State} {actions : List Action} (initially : property state)
    (guarded : Guarded step guard state actions)
    (executed : execute step state actions = some final) : property final := by
  induction actions generalizing state with
  | nil =>
      cases executed
      exact initially
  | cons action rest ih =>
      rcases execute_cons executed with ⟨next, stepped, continued⟩
      rw [Guarded, stepped] at guarded
      exact ih (kept state action next initially guarded.1 stepped) guarded.2 continued

/-- If an action that misses the condition spoils the system for good, a schedule that
ends in an unspoilt state has met it all along. -/
theorem guarded_of_unspoilt (spoilt : State → Prop) {guard : State → Action → Prop}
    (fatal : ∀ state action next, step state action = some next → ¬guard state action → spoilt next)
    (kept : ∀ state action next, spoilt state → step state action = some next → spoilt next)
    {state final : State} {actions : List Action}
    (executed : execute step state actions = some final) (unspoilt : ¬spoilt final) :
    Guarded step guard state actions := by
  induction actions generalizing state with
  | nil => trivial
  | cons action rest ih =>
      rcases execute_cons executed with ⟨next, stepped, continued⟩
      rw [Guarded, stepped]
      refine ⟨?_, ih continued⟩
      by_contra missed
      exact unspoilt
        (execute_invariant spoilt kept (fatal state action next stepped missed) continued)

end RemoteRootport.Machine
