import Mathlib.Tactic.DeriveFintype

/-!
# The lifecycle state machine

`StateMachine` holds one of four states and moves only along its transition table; a move
off the table is refused and leaves the state as it was. The dispatcher calls
`transition_to` and, at most of its call sites, ignores the answer.
-/

namespace Wpmd

/-- `wpmd::State`. -/
inductive State where
  | idle
  | starting
  | running
  | stopping
  deriving DecidableEq, Repr, Fintype

namespace StateMachine

/-- `StateMachine::is_valid_transition`: the transition table. -/
def isValidTransition : State → State → Bool
  | .idle, target => target == .starting
  | .starting, target => target == .running || target == .idle
  | .running, target => target == .stopping || target == .idle
  | .stopping, target => target == .idle

/-- `StateMachine::transition_to`: the state after the call, and its answer. -/
def transitionTo (current new : State) : State × Bool :=
  if isValidTransition current new then (new, true) else (current, false)

/-- A move on the table is taken. -/
theorem transitionTo_of_valid {current new : State} (h : isValidTransition current new = true) :
    transitionTo current new = (new, true) := by
  simp [transitionTo, h]

/-- A move off the table leaves the state as it was. -/
theorem transitionTo_of_invalid {current new : State}
    (h : isValidTransition current new = false) : transitionTo current new = (current, false) := by
  simp [transitionTo, h]

end StateMachine

end Wpmd
