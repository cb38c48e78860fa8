import WpDaemon.Refinement

/-!
# What a failure on a fail-safe path leaves behind

The failure branches and `catch` blocks of `handle_spin_up` and `handle_spin_down` call
`finalize`, `terminate` and `process_.reset()`, and these may fail in turn. This module
follows what such a second failure leaves at the next command boundary, and what the
teardown itself does to a child that `is_alive` has already reaped.
-/

namespace Wpmd

open CommandHandler WireProxyProcess

/-- From `STARTING` no command, child exit or monitor trip changes the state: `spin_up`,
`spin_down` and `state` all act only from `IDLE` or `RUNNING`. -/
theorem Step.state_starting {w w' : World} {o : Option (Bytes × Json)} (h : Step w o w')
    (hs : w.state = .starting) : w'.state = .starting := by
  cases h with
  | @execute _ line _ hrun =>
    have hc := execute_cases line w
    generalize Request.parse line = q at hc
    cases q <;> simp only at hc
    case spinUp name =>
      rw [hc, Cmd.run_catchStd, handleSpinUp_of_ne_idle (by simp [hs])] at hrun
      cases hrun; exact hs
    case spinDown =>
      rw [hc, Cmd.run_catchStd, handleSpinDown_of_ne_running (by simp [hs])] at hrun
      cases hrun; exact hs
    case state =>
      rw [hc, Cmd.run_catchStd, handleState_of_ne_running (by simp [hs])] at hrun
      cases hrun; exact hs
    case other =>
      obtain ⟨r, calls, hrun'⟩ := hc
      cases hrun.symm.trans hrun'; exact hs
  | childExits => exact hs
  | monitorTrips _ _ hrun =>
    obtain ⟨q, t, hrun'⟩ := WireProxyProcess.monitorTrips_frame w
    cases hrun.symm.trans hrun'; exact hs

/-- Once in `STARTING`, the dispatcher stays there for the rest of every run. -/
theorem Run.state_starting {w w' : World} {obs : List (Bytes × Json)} (h : Run w obs w')
    (hs : w.state = .starting) : w'.state = .starting := by
  induction h with
  | done => exact hs
  | silent hstep _ ih => exact ih (hstep.state_starting hs)
  | command hstep _ ih => exact ih (hstep.state_starting hs)

/-- When `fork` fails and every `finalize` throws, `spin_up:wg` ends at a command boundary
in `STARTING` with a process object: the `finalize` of the spawn-failure branch throws, the
`catch` block's own `finalize` throws past it, and `execute` turns that into an error reply.
No later command, exit or trip leaves `STARTING`. -/
theorem spinUp_wedged_in_starting :
    ∃ w, Reachable w ∧ w.state = .starting ∧ w.process ≠ none ∧
      ∀ obs w', Run w obs w' → w'.state = .starting := by
  obtain ⟨r, w, hrun, hs, hp⟩ : ∃ r w, (execute (ascii "spin_up:wg\n")).run
      (World.init { Env.quiet with fails := fun c _ => c == .fork || c == .finalize }) =
        .ok r w ∧ w.state = .starting ∧ w.process ≠ none := ⟨_, _, rfl, rfl, by decide⟩
  exact ⟨w, .step (.init _) (.execute hrun), hs, hp, fun _ _ h => h.state_starting hs⟩

/-- A probe of a session whose child has exited: `is_alive` reaps the child but, being
`const`, leaves `pid_` and `terminated_` as they were, so the destructor run by
`process_.reset()` calls `terminate`, which sends `SIGTERM` to the group of the child it has
just reaped. -/
theorem handleState_signals_reaped_child {w : World} {p : WireProxyProcess}
    (hrel : w.env.Reliable) (hw : Active w p) (hz : w.children p.pid = .zombie) :
    ∃ r w', handleState.run w = .ok r w' ∧ ∃ t,
      w'.trace = w.trace ++ .reap p.pid :: .finalized (cString w.currentLogPath) :: .kill (-p.pid) .sigterm :: t := by
  have hpid : w.proc.pid = p.pid := by simp [World.proc, hw.process]
  simp [handleState, checkAndCleanupProcess, hw.state, hw.process, isAlive_run, hpid, hz, hw.pid,
    hasNetworkDrop, World.reap, LogManager.finalize_run, hw.logOpen, hrel.finalize]
  generalize hr : resetProcess.run _ = x
  obtain ⟨w', rfl, -, hf, htr⟩ :=
    resetProcess_inv (by simpa using hrel) (.inr (by simpa [World.proc] using hw.pid)) hr
  obtain ⟨-, t, ht⟩ := htr (by simpa [World.proc] using hw.pid)
    (by simpa [World.proc] using hw.notTerminated)
  have hstate : w'.state = .running := by simpa [hw.state] using hf.eq_fields.2.2.1
  have hidle : StateMachine.transitionTo .running .idle = (.idle, true) := rfl
  simp [hstate, hidle]
  exact ⟨_, _, ⟨rfl, rfl⟩, t, by simpa using ht⟩

/-- A run in which `SIGTERM` reaches the group of a child the supervisor has already reaped:
`spin_up:wg` starts child 2, the child exits, and `state:` reaps it and then signals it. -/
theorem signal_after_reap :
    ∃ obs w, Run (World.init Env.quiet) obs w ∧
      ∃ t₁ t₂, w.trace = t₁ ++ .reap 2 :: t₂ ∧ .kill (-2) .sigterm ∈ t₂ := by
  have hrel : Env.quiet.Reliable := ⟨fun _ => rfl, fun _ => rfl, fun _ => rfl⟩
  obtain ⟨p, w₁, hrun₁, hA, hpid, henv, -, -, -, -, hlive⟩ :=
    handleSpinUp_starts hrel (World.init_idle Env.quiet) (ascii "wg") rfl rfl rfl rfl rfl
  obtain ⟨r, w₂, hrun₂, t, ht⟩ := handleState_signals_reaped_child (w := w₁.childExit p.pid)
    (by simpa [World.childExit, henv] using hrel) hA.childExit (by simp [World.childExit])
  have hp : p.pid = 2 := hpid
  have hup : Request.parse (ascii "spin_up:wg\n") = .spinUp (ascii "wg") := rfl
  have hst : Request.parse (ascii "state:\n") = .state := rfl
  refine ⟨_, w₂, .command (.execute (execute_of_spinUp hup hrun₁))
    (.silent (.childExits p.pid (hpid ▸ hlive)) (.command (.execute (execute_of_state hst hrun₂))
      (.done _))), w₁.trace, _, by rw [ht, ← hp]; rfl, by simp [hp]⟩

/-- An environment in which every `finalize` throws and a child exits at the third tick, once
`spin_down` has signalled it. -/
def Env.finalizeThrows : Env :=
  { Env.quiet with fails := fun c _ => c == .finalize, exits := fun t _ => decide (3 ≤ t) }

/-- A run that drops a session without its footer and later closes that log from
`create_log`: `spin_up:wg` starts a session, `spin_down:` reaches `IDLE` with no process and the
log still open, and the next `spin_up:wg` closes it without a footer. -/
theorem session_log_abandoned :
    ∃ obs₁ w₁ obs₂ w₂, Run (World.init .finalizeThrows) obs₁ w₁ ∧
      w₁.state = .idle ∧ w₁.process = none ∧ w₁.logOpen = true ∧
      Run w₁ obs₂ w₂ ∧ .abandoned w₁.currentLogPath ∈ w₂.trace := by
  obtain ⟨obs₁, h₁, -⟩ := Run.of_allReply
    (by decide : allReply (World.init .finalizeThrows) [ascii "spin_up:wg\n", ascii "spin_down:\n"])
  obtain ⟨obs₂, h₂, -⟩ := Run.of_allReply (by decide : allReply
    ([ascii "spin_up:wg\n", ascii "spin_down:\n"].foldl afterLine (World.init .finalizeThrows))
    [ascii "spin_up:wg\n"])
  exact ⟨obs₁, _, obs₂, _, h₁, rfl, rfl, rfl, h₂, by decide⟩

end Wpmd
