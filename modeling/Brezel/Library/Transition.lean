import Mathlib

/-!
# Runs of a labelled transition system

A transition system is a relation `step` between a state, an action and a next state.  A run takes
one step after another.  Runs carry a condition `allowed` on the actions, stated over the state in
which the action is taken; `fun _ _ => True` leaves the runs unrestricted.

`Run.invariant` is the one induction over runs that the safety results use.  For a system given by
an executable transition function, `runList` plays a list of actions, and `Run.of_runList` turns a
played list into a run.
-/

namespace Transition

universe u v

variable {State : Type u} {Action : Type v}

/-- The states reached from `start` by steps whose actions are all allowed where they are taken. -/
inductive Run (step : State → Action → State → Prop) (allowed : State → Action → Prop)
    (start : State) : State → Prop
  | start : Run step allowed start start
  | next {before after : State} {action : Action} (run : Run step allowed start before)
      (permitted : allowed before action) (taken : step before action after) :
      Run step allowed start after

variable {step : State → Action → State → Prop} {allowed : State → Action → Prop}

/-- **What holds at the start and is kept by every allowed step holds along every run.** -/
theorem Run.invariant {start finish : State} {holds : State → Prop}
    (run : Run step allowed start finish) (initially : holds start)
    (kept : ∀ before action after, holds before → allowed before action →
      step before action after → holds after) : holds finish := by
  induction run with
  | start => exact initially
  | next _ permitted taken ih =>
    exact kept _ _ _ ih permitted taken

/-- The relation of an executable transition function. -/
def ofFunction (next : State → Action → Option State) (before : State) (action : Action)
    (after : State) : Prop :=
  next before action = some after

/-- Play a list of actions, checking each against a decidable condition. -/
def runList (next : State → Action → Option State) (allowed : State → Action → Prop)
    [∀ state action, Decidable (allowed state action)] (start : State) :
    List Action → Option State
  | [] => some start
  | action :: rest =>
    if allowed start action then
      match next start action with
      | some after => runList next allowed after rest
      | none => none
    else none

theorem Run.trans {start middle finish : State} (first : Run step allowed start middle)
    (second : Run step allowed middle finish) : Run step allowed start finish := by
  induction second with
  | start => exact first
  | next _ permitted taken ih =>
    exact .next ih permitted taken

/-- **A map of the states that turns allowed steps into allowed steps does so with runs.** -/
theorem Run.map {Other : Type u} {step' : Other → Action → Other → Prop}
    {allowed' : Other → Action → Prop} {start finish : State} (run : Run step allowed start finish)
    (view : State → Other) (simulated : ∀ before action after, allowed before action →
      step before action after → allowed' (view before) action ∧
        step' (view before) action (view after)) :
    Run step' allowed' (view start) (view finish) := by
  induction run with
  | start => exact .start
  | next _ permitted taken ih =>
    obtain ⟨permitted', taken'⟩ := simulated _ _ _ permitted taken
    exact .next ih permitted' taken'

theorem Run.mono {weaker : State → Action → Prop} {start finish : State}
    (run : Run step allowed start finish)
    (implied : ∀ state action, allowed state action → weaker state action) :
    Run step weaker start finish :=
  run.map id fun _ _ _ permitted taken => ⟨implied _ _ permitted, taken⟩

section Played

variable {next : State → Action → Option State}
  [∀ state action, Decidable (allowed state action)]

theorem Run.of_runList {start finish : State} (actions : List Action)
    (played : runList next allowed start actions = some finish) :
    Run (ofFunction next) allowed start finish := by
  induction actions generalizing start with
  | nil =>
    cases played
    exact .start
  | cons action rest ih =>
    simp only [runList] at played
    split at played
    · next permitted =>
      split at played
      · next after taken =>
        exact (Run.next .start permitted taken).trans (ih played)
      · exact absurd played (by simp)
    · exact absurd played (by simp)

theorem Run.exists_of_runList {start : State} {goal : State → Prop} [DecidablePred goal]
    (actions : List Action)
    (played : (runList next allowed start actions).any (fun state => decide (goal state)) = true) :
    ∃ finish, Run (ofFunction next) allowed start finish ∧ goal finish := by
  cases result : runList next allowed start actions with
  | none => simp [result] at played
  | some finish => exact ⟨finish, .of_runList actions result, by simpa [result] using played⟩

end Played

end Transition
