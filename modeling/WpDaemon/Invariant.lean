import WpDaemon.Supervisor

/-!
# The dispatcher between two commands

With an environment in which `get_version`, `terminate` and `finalize` succeed, the
dispatcher is at every command boundary in one of two shapes: idle (no process object, no
configuration, no open log, every child reaped) or running one session (a process object
owning one live child, a `.conf` configuration, an open log, every other child reaped).
Each handler is followed here through every branch of its source, the failures of
`create_log`, `fork` and the monitor thread included, from each of the two shapes.
-/

namespace Wpmd

open CommandHandler LogManager WireProxyProcess ConfigManager

/-- The dispatcher with no session. -/
structure Idle (w : World) : Prop where
  state : w.state = .idle
  process : w.process = none
  config : w.currentConfig = []
  logClosed : w.logOpen = false
  settled : ∀ q, (w.children q).Settled
  nextPid : 0 < w.nextPid

/-- The dispatcher running one session, whose process object is `p`. -/
structure Active (w : World) (p : WireProxyProcess) : Prop where
  state : w.state = .running
  process : w.process = some p
  pid : 0 < p.pid
  notTerminated : p.terminated = false
  live : w.children p.pid = .running ∨ w.children p.pid = .zombie
  settled : ∀ q, q ≠ p.pid → (w.children q).Settled
  config : endsWith (ascii ".conf") w.currentConfig = true
  logOpen : w.logOpen = true
  nextPid : 0 < w.nextPid

/-- A dispatcher inside a command, about to drop its process object: every child but the one
that object still owns is reaped. -/
structure Unwinding (w : World) : Prop where
  settled : ∀ q, (w.children q).Settled ∨ (q = w.proc.pid ∧ 0 < q ∧ w.proc.terminated = false)
  pid : w.proc.pid = -1 ∨ 0 < w.proc.pid

theorem Active.unwinding {w : World} {p : WireProxyProcess} (hw : Active w p) : Unwinding w := by
  have hp : w.proc = p := by simp [World.proc, hw.process]
  refine ⟨fun q => ?_, .inr (hp ▸ hw.pid)⟩
  by_cases hq : q = p.pid
  · exact .inr ⟨by rw [hq, hp], hq ▸ hw.pid, hp ▸ hw.notTerminated⟩
  · exact .inl (hw.settled q hq)

/-- A session whose child exits on its own is still a session. -/
theorem Active.childExit {w : World} {p : WireProxyProcess} (hw : Active w p) :
    Active (w.childExit p.pid) p :=
  ⟨hw.state, hw.process, hw.pid, hw.notTerminated, .inr (by simp [World.childExit]),
    fun q hq => by simpa [World.childExit, Function.update_noteq hq] using hw.settled q hq,
    hw.config, hw.logOpen, hw.nextPid⟩

/-- A process object owning one unterminated child, every other child reaped. -/
theorem Unwinding.of_owned {w : World} {pid : Int} (hp : w.proc.pid = pid) (hpos : 0 < pid)
    (ht : w.proc.terminated = false) (hs : ∀ q, q ≠ pid → (w.children q).Settled) : Unwinding w :=
  ⟨fun q => if hq : q = pid then .inr ⟨by rw [hq, hp], hq ▸ hpos, ht⟩ else .inl (hs q hq),
    .inr (hp ▸ hpos)⟩

/-- After `process_.reset()` under a reliable environment no child is left to reap, and the
dispatcher's own fields are as they were. -/
theorem Unwinding.reset {w : World} {r : EStateM.Result Exception World Unit}
    (hrel : w.env.Reliable) (hw : Unwinding w) (h : resetProcess.run w = r) :
    ∃ w', r = .ok () w' ∧ w'.process = none ∧ (∀ q, (w'.children q).Settled) ∧
      w'.env = w.env ∧ w'.state = w.state ∧ w'.currentConfig = w.currentConfig ∧
      w'.currentLogPath = w.currentLogPath ∧ w'.logOpen = w.logOpen ∧ w'.nextPid = w.nextPid := by
  obtain ⟨w', rfl, hp, hf, hc⟩ := resetProcess_inv hrel hw.pid h
  obtain ⟨henv, -, hstate, -, hconf, hpath, hlog, hnext, -⟩ := hf.eq_fields
  refine ⟨w', rfl, hp, fun q => ?_, henv, hstate, hconf, hpath, hlog, hnext⟩
  rcases hw.settled q with hq | ⟨rfl, hpid, ht⟩
  · exact hq.evolves (hf.evolves q)
  · exact (hc hpid ht).1

section Handlers

variable {w : World}

/-- `spin_up` from an idle dispatcher when the configuration exists, nothing fails and the
child survives the startup sleep: the log is created at the clock's second, the child is
forked, and the session is recorded. -/
theorem handleSpinUp_starts (hrel : w.env.Reliable) (hw : Idle w) (name : Bytes)
    (hex : (configExists (normalizeConfigName name)).run w = .ok true w)
    (hcl : w.env.fails .createLog (w.calls .createLog) = false)
    (hfk : w.env.fails .fork (w.calls .fork) = false)
    (hmt : w.env.fails .monitorThread (w.calls .monitorThread) = false)
    (hlive : w.env.exits (w.tick + 1) w.nextPid = false) :
    let path := joinPath (logsDir w.env) (logFileName (w.env.clock w.tick) (normalizeConfigName name))
    ∃ p w', (handleSpinUp name).run w =
        .ok (spinUpReply (normalizeConfigName name) w.nextPid path) w' ∧
      Active w' p ∧ p.pid = w.nextPid ∧ w'.env = w.env ∧
      w'.currentConfig = normalizeConfigName name ∧ w'.currentLogPath = path ∧
      w'.trace = w.trace ++ [.opened (cString path), .fork w.nextPid] ∧
      w'.files = Function.update w.files (cString path)
        [.header (w.env.clock w.tick) (cString (normalizeConfigName name)) (cString w.env.version)] ∧
      w'.children w.nextPid = .running := by
  have hnp := hw.nextPid
  rw [handleSpinUp_of_exists hw.state hex]
  simp [spinUpAttempt, BinaryManager.getVersion_run,
    hrel.getVersion, createLog_run, hw.logClosed, hcl, resetProcess_of_none, hw.process, spawn_run,
    hnp, hfk, hmt, isAlive_run, World.proc, World.sleep, hlive]
  refine ⟨_, ⟨rfl, rfl, hnp, rfl, .inl (by simp [hlive]), fun q hq => ?_,
    endsWith_normalizeConfigName name, rfl, show 0 < w.nextPid + 1 by omega⟩, rfl⟩
  simpa [Function.update_noteq hq] using (hw.settled q).evolves (ChildStatus.evolves_afterSleep _ _)

/-- `spin_up` from an idle dispatcher on a configuration `config_exists` finds: the child is
started and the session recorded, or the attempt fails on one of its paths and every one of
them leaves the dispatcher idle. -/
theorem handleSpinUp_found (hrel : w.env.Reliable) (hw : Idle w) (name : Bytes)
    (hex : (configExists (normalizeConfigName name)).run w = .ok true w) :
    ∃ r w', (handleSpinUp name).run w = .ok r w' ∧ w'.env = w.env ∧
      ((∃ p, Active w' p ∧ w'.children p.pid = .running ∧
          w'.currentConfig = normalizeConfigName name ∧
          r = spinUpReply (normalizeConfigName name) p.pid w'.currentLogPath) ∨
       ((∃ msg, r = errorReply (ascii "spin_up") msg) ∧ Idle w')) := by
  have hnp := hw.nextPid
  rw [handleSpinUp_of_exists hw.state hex]
  have hback : StateMachine.transitionTo .starting .idle = (.idle, true) := rfl
  by_cases hcl : w.env.fails .createLog (w.calls .createLog) = true
  · simp [hback, spinUpAttempt,
      BinaryManager.getVersion_run, hrel.getVersion, createLog_run, hw.logClosed, hcl, spinUpRecover,
      finalize_of_closed, resetProcess_of_none, hw.process, hw.config]
    exact ⟨_, _, ⟨rfl, rfl⟩, rfl, .inr ⟨⟨_, rfl⟩, ⟨rfl, rfl, rfl, rfl, hw.settled, hnp⟩⟩⟩
  by_cases hfk : w.env.fails .fork (w.calls .fork) = true
  · simp [hback, spinUpAttempt,
      BinaryManager.getVersion_run, hrel.getVersion, createLog_run, hw.logClosed, hcl,
      resetProcess_of_none, hw.process, spawn_run, hnp, hfk, finalize_run, hrel.finalize,
      resetProcess_of_stopped, World.proc, WireProxyProcess.new]
    exact ⟨_, _, ⟨rfl, rfl⟩, rfl, .inr ⟨⟨_, rfl⟩, ⟨rfl, rfl, hw.config, rfl, hw.settled, hnp⟩⟩⟩
  -- from here on the child exists: every failure path drops it through `process_.reset()`
  by_cases hmt : w.env.fails .monitorThread (w.calls .monitorThread) = true
  · simp [hback, spinUpAttempt,
      BinaryManager.getVersion_run, hrel.getVersion, createLog_run, hw.logClosed, hcl,
      resetProcess_of_none, hw.process, spawn_run, hnp, hfk, hmt, spinUpRecover, finalize_run,
      hrel.finalize]
    generalize hr : resetProcess.run _ = x
    obtain ⟨w', rfl, hp, hs, henv, hstate, -, -, hlog, hnext⟩ :=
      Unwinding.reset (by simpa using hrel) (Unwinding.of_owned (by simp [World.proc]) hnp
        (by simp [World.proc, WireProxyProcess.new])
        (fun q hq => by simpa [Function.update_noteq hq] using hw.settled q)) hr
    exact ⟨_, _, rfl, henv, .inr ⟨⟨_, rfl⟩,
      ⟨by simp [hstate, hback], hp, rfl, hlog, hs, by simp [hnext]; omega⟩⟩⟩
  by_cases hdie : w.env.exits (w.tick + 1) w.nextPid = false
  · obtain ⟨p, w', hrun, hA, hpid, henv, hconf, hpath, -, -, hch⟩ := handleSpinUp_starts hrel hw
      name hex (by simpa using hcl) (by simpa using hfk) (by simpa using hmt) hdie
    exact ⟨_, w', (handleSpinUp_of_exists hw.state hex).symm.trans hrun, henv,
      .inl ⟨p, hA, hpid ▸ hch, hconf, by rw [hpid, hpath]⟩⟩
  simp only [Bool.not_eq_false] at hdie
  simp [hback, spinUpAttempt,
    BinaryManager.getVersion_run, hrel.getVersion, createLog_run, hw.logClosed, hcl,
    resetProcess_of_none, hw.process, spawn_run, hnp, hfk, hmt, isAlive_run, World.proc,
    World.sleep, hdie, World.reap, finalize_run, hrel.finalize]
  generalize hr : resetProcess.run _ = x
  obtain ⟨w', rfl, hp, hs, henv, hstate, -, -, hlog, hnext⟩ :=
    Unwinding.reset (by simpa using hrel) (Unwinding.of_owned (by simp [World.proc]) hnp
      (by simp [World.proc, WireProxyProcess.new])
      (fun q hq => by simpa [Function.update_noteq hq] using
        (hw.settled q).evolves (ChildStatus.evolves_afterSleep _ _))) hr
  exact ⟨_, _, rfl, henv, .inr ⟨⟨_, rfl⟩,
    ⟨by simp [hstate, hback], hp, rfl, hlog, hs, by simp [hnext]; omega⟩⟩⟩

/-- `spin_up` from an idle dispatcher, with what `execute` makes of an exception: the child is
started and the session recorded, or the reply is an error and the dispatcher stays idle. -/
theorem handleSpinUp_idle (hrel : w.env.Reliable) (hw : Idle w) (name : Bytes) :
    ∃ r w', (catchStd (handleSpinUp name) fun what => pure (errorReply (ascii "spin_up") what)).run
        w = .ok r w' ∧ w'.env = w.env ∧
      ((∃ p, Active w' p ∧ w'.children p.pid = .running ∧
          w'.currentConfig = normalizeConfigName name ∧
          r = spinUpReply (normalizeConfigName name) p.pid w'.currentLogPath) ∨
       ((∃ msg, r = errorReply (ascii "spin_up") msg) ∧ Idle w')) := by
  rcases configExists_cases w (normalizeConfigName name) with ⟨_ | _, hex⟩ | ⟨what, hex⟩
  · exact ⟨_, w, by rw [Cmd.run_catchStd, handleSpinUp_of_not_exists hw.state hex], rfl,
      .inr ⟨⟨_, rfl⟩, hw⟩⟩
  · obtain ⟨r, w', hrun, henv, h⟩ := handleSpinUp_found hrel hw name hex
    exact ⟨r, w', by rw [Cmd.run_catchStd, hrun], henv, h⟩
  · -- `exists` threw: `execute` answers with the `filesystem_error`'s text
    exact ⟨_, w, by rw [Cmd.run_catchStd, handleSpinUp_of_configExists_throws hw.state hex]; rfl,
      rfl, .inr ⟨⟨_, rfl⟩, hw⟩⟩

/-- `spin_down` with a session stops the child, writes the footer and leaves the dispatcher
idle. -/
theorem handleSpinDown_active {p : WireProxyProcess} (hrel : w.env.Reliable) (hw : Active w p) :
    ∃ w', handleSpinDown.run w = .ok (spinDownReply w.currentConfig w.currentLogPath) w' ∧
      w'.env = w.env ∧ Idle w' ∧ w'.currentLogPath = w.currentLogPath ∧
      (∃ t, w'.trace = w.trace ++ t ++ [.finalized (cString w.currentLogPath)]) ∧
      ∃ footer, w'.files = Function.update w.files (cString w.currentLogPath)
        (w.files (cString w.currentLogPath) ++ [footer]) := by
  have hstop : StateMachine.transitionTo .running .stopping = (.stopping, true) := rfl
  have hidle : StateMachine.transitionTo .stopping .idle = (.idle, true) := rfl
  simp [handleSpinDown, hw.state, hw.process, hstop, spinDownAttempt]
  generalize hr : WireProxyProcess.terminate.run _ = x
  obtain ⟨m, w₁, rfl, hp₁, -, hf₁, hc₁⟩ := terminate_inv (by exact hrel.terminate)
    (by simp [World.proc, hw.process, hw.pid]) (by simp [World.proc, hw.process, hw.notTerminated]) hr
  obtain ⟨henv, -, hstate, -, hconf, hpath, hlog, hnext, hfiles⟩ := hf₁.eq_fields
  obtain ⟨t, ht⟩ := hf₁.trace_append
  dsimp only at henv hstate hconf hpath hlog hnext hfiles ht
  simp [finalize_run, hlog, hw.logOpen, henv, hrel.finalize, resetProcess_of_stopped, World.proc, hp₁,
    hw.process, hidle, hstate, hpath, hfiles, ht]
  simp only [World.proc, Option.getD_some] at hc₁
  refine ⟨⟨rfl, rfl, rfl, rfl, fun q => ?_, by simp [hnext, hw.nextPid]⟩, _, rfl⟩
  by_cases hq : q = p.pid
  · subst hq
    exact .inr (hc₁ (by rcases hw.live with h | h <;> simp [h]))
  · exact (hw.settled q hq).evolves (hf₁.evolves q)

/-- `state` with a session probes the child: a live child is reported with the session's
configuration and id; an exited one is reaped, its session torn down, and the dispatcher
left idle. -/
theorem handleState_active {p : WireProxyProcess} (hrel : w.env.Reliable) (hw : Active w p) :
    ∃ r w', handleState.run w = .ok r w' ∧ w'.env = w.env ∧
      ((r = runningStateReply w.currentConfig p.pid w.currentLogPath ∧ w' = w ∧
          w.children p.pid = .running) ∨
       (r = stoppedStateReply w.currentLogPath ∧ Idle w' ∧ w.children p.pid ≠ .running)) := by
  have hpid : w.proc.pid = p.pid := by simp [World.proc, hw.process]
  rcases hw.live with hc | hc
  · exact ⟨_, w, by simp [handleState, checkAndCleanupProcess, hw.state, hw.process,
      isAlive_run, hpid, hc, hw.pid, World.proc], rfl, .inl ⟨rfl, rfl, hc⟩⟩
  have hidle : StateMachine.transitionTo .running .idle = (.idle, true) := rfl
  simp [handleState, checkAndCleanupProcess, hw.state, hw.process, isAlive_run, hpid, hc, hw.pid,
    hasNetworkDrop, World.reap, finalize_run, hw.logOpen, hrel.finalize]
  generalize hr : resetProcess.run _ = x
  obtain ⟨w', rfl, hp, hs, henv, hstate, -, hpath, hlog, hnext⟩ :=
    Unwinding.reset (by simpa using hrel) (Unwinding.of_owned (by simp [World.proc]) hw.pid
      (by simp [World.proc, hw.process, hw.notTerminated])
      (fun q hq => by simpa [Function.update_noteq hq] using hw.settled q hq)) hr
  simp [hstate, hidle, hp, hpath, henv]
  exact ⟨_, _, ⟨rfl, rfl⟩, rfl, rfl, rfl, rfl, rfl, hlog, hs, by simp [hnext, hw.nextPid]⟩

end Handlers

end Wpmd
