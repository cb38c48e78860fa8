import WpDaemon.World

/-!
# The child process manager

`WireProxyProcess` forks the proxy, probes it with a non-blocking `waitpid`, and stops it
with `SIGTERM` to its process group, fifty polls of 100 ms, then `SIGKILL` and a blocking
`waitpid`. Its monitor thread tails the log; here the thread appears only through its
trip (`monitorTrips`), whose line-by-line behaviour is in `WpDaemon.Watchdog`.

`is_alive` is `const`: when it reaps the child it leaves `pid_` and `terminated_` as they
were, so the destructor still runs `terminate` on that child.
-/

namespace Wpmd

namespace WireProxyProcess

/-- `WireProxyProcess::cleanup`: raise the stop flag, join the monitor, forget the child. -/
def cleanup : Cmd Unit :=
  modifyProcess fun p => { p with
    stopMonitoring := true, monitor := .none, terminated := true, pid := -1, configPath := [] }

/-- `WireProxyProcess::spawn`. -/
def spawn (configPath : Bytes) : Cmd Bool := do
  if (← get).proc.pid ≠ -1 then return false
  modifyProcess fun p => { p with configPath := configPath }
  -- `get_log_handle()` throws when no log is open, and `spawn` catches it
  if !(← get).logOpen then return false
  let pid ← fork
  if pid < 0 then return false
  modifyProcess fun p => { p with
    pid := pid, terminated := false, stopMonitoring := false, networkDropDetected := false }
  -- the constructor of `std::thread` may throw `std::system_error`
  if ← failsNow .monitorThread then throw (.std ((← get).env.what .monitorThread))
  modifyProcess fun p => { p with monitor := .running }
  return true

/-- `WireProxyProcess::is_alive`. -/
def isAlive : Cmd Bool := do
  let p := (← get).proc
  if p.pid = -1 then return false
  return (← waitpidNoHang p.pid) = 0

/-- The loop of `terminate`: up to `n` rounds of a 100 ms sleep and a
`waitpid(pid_, WNOHANG)`; whether one of them reaped the child. -/
def pollExit (pid : Int) : Nat → Cmd Bool
  | 0 => pure false
  | n + 1 => do
    sleepFor
    if (← waitpidNoHang pid) = pid then pure true else pollExit pid n

/-- The escalation of `terminate`: `SIGTERM` to the group and fifty polls, then `SIGKILL`
and a blocking `waitpid`; the name of the way the child ended. -/
def escalate (pid : Int) : Cmd Bytes := do
  killGroup pid .sigterm
  if ← pollExit pid 50 then return ascii "Graceful termination"
  killGroup pid .sigkill
  discard (waitpidBlocking pid)
  return ascii "Force killed"

/-- `WireProxyProcess::terminate`. The assignment of the method's name may throw
`std::bad_alloc`, after the child is gone and before `cleanup`. -/
def terminate : Cmd Bytes := do
  let w ← get
  let p := w.proc
  if p.pid = -1 ∨ p.terminated then return ascii "Not running"
  let method ← escalate p.pid
  if ← failsNow .terminate then throw (.std (w.env.what .terminate))
  cleanup
  return method

/-- `WireProxyProcess::has_network_drop`. -/
def hasNetworkDrop : Cmd Bool := return (← get).proc.networkDropDetected

/-- `WireProxyProcess::~WireProxyProcess`: stop and join the monitor, then terminate a child
that was never terminated. A destructor is `noexcept`: an exception in it ends the
process. -/
def destroy : Cmd Unit :=
  tryCatch (do
      modifyProcess fun p => { p with stopMonitoring := true, monitor := .none }
      let p := (← get).proc
      if p.pid ≠ -1 ∧ ¬p.terminated then discard terminate)
    fun _ => throw .abort

/-- The monitor thread at its threshold: it sets `network_drop_detected_`, signals the group
when `pid_ != -1 && !terminated_`, and returns. -/
def monitorTrips : Cmd Unit := do
  modifyProcess fun p => { p with networkDropDetected := true }
  let p := (← get).proc
  if p.pid ≠ -1 ∧ ¬p.terminated then killGroup p.pid .sigterm
  modifyProcess fun p => { p with monitor := .finished }

end WireProxyProcess

/-- `process_.reset()`: destroy the object, then hold a null pointer. -/
def resetProcess : Cmd Unit := do
  WireProxyProcess.destroy
  modify fun w => { w with process := none }

end Wpmd

namespace Wpmd

namespace WireProxyProcess

/-- Polling reaps the child once it has exited and touches nothing but the operating
system; when it reports no exit, the child's status is as before. -/
theorem pollExit_spec {pid : Int} (hpid : 0 < pid) (n : Nat) (w : World) :
    ∃ b w', (pollExit pid n).run w = .ok b w' ∧ OsFrame w w' ∧
      ((b = true ∧ w'.children pid = .reaped) ∨ (b = false ∧ w'.children pid = w.children pid)) := by
  induction n generalizing w with
  | zero => exact ⟨false, w, rfl, .refl w, .inr ⟨rfl, rfl⟩⟩
  | succ n ih =>
    obtain ⟨r, w₁, hwait, hf₁, ⟨rfl, hc⟩ | ⟨hr, rfl, hz⟩⟩ := waitpidNoHang_frame w.sleep hpid
    · exact ⟨true, w₁, by simp [pollExit, hwait], (OsFrame.sleep w).trans hf₁, .inl ⟨rfl, hc⟩⟩
    · obtain ⟨b, w', hrun, hf', hb⟩ := ih w.sleep
      have hs : w.sleep.children pid = w.children pid := by
        rw [World.sleep_children] at hz ⊢
        exact ChildStatus.afterSleep_eq_self hz
      exact ⟨b, w', by simp [pollExit, hwait, hr, hrun], (OsFrame.sleep w).trans hf', by rwa [hs] at hb⟩

/-- `is_alive` on a forked child: `waitpid` reaps the child once it has exited. -/
theorem isAlive_run (w : World) (hpid : 0 < w.proc.pid) :
    isAlive.run w = match w.children w.proc.pid with
      | .running => .ok true w
      | .zombie => .ok false (w.reap w.proc.pid)
      | _ => .ok false w := by
  have h : w.proc.pid ≠ -1 := by omega
  simp only [isAlive, Cmd.run_bind, Cmd.run_get, h, if_false, waitpidNoHang_spec]
  cases hc : w.children w.proc.pid <;> simp [hc, hpid.ne']

/-- `spawn` on a fresh process object while the log is open: `fork` may fail, and the
monitor thread may fail to start after the child exists. -/
theorem spawn_run (w : World) (configPath : Bytes) (hp : w.process = some .new)
    (hlog : w.logOpen = true) (hpid : 0 < w.nextPid) :
    (spawn configPath).run w =
      if w.env.fails .fork (w.calls .fork) then
        .ok false { w with
          calls := Function.update w.calls .fork (w.calls .fork + 1)
          process := some { WireProxyProcess.new with configPath := configPath } }
      else
        let p : WireProxyProcess := { WireProxyProcess.new with
          configPath := configPath, pid := w.nextPid }
        let calls := Function.update (Function.update w.calls .fork (w.calls .fork + 1))
          .monitorThread (w.calls .monitorThread + 1)
        let w₁ : World := { w with
          calls := calls
          nextPid := w.nextPid + 1
          children := Function.update w.children w.nextPid .running
          trace := w.trace ++ [.fork w.nextPid]
          process := some p }
        if w.env.fails .monitorThread (w.calls .monitorThread) then
          .error (.std (w.env.what .monitorThread)) w₁
        else .ok true { w₁ with process := some { p with monitor := .running } } := by
  by_cases hf : w.env.fails .fork (w.calls .fork) = true
  · simp [spawn, World.proc, hp, WireProxyProcess.new, hlog, hf]
  · have hpos : ¬w.nextPid < 0 := by omega
    simp [spawn, World.proc, hp, WireProxyProcess.new, hlog, hf, hpos]
    split <;> rfl

/-- The monitor's trip on a child it has not terminated: the flag, `SIGTERM` to the group, and
the thread's return. -/
theorem monitorTrips_run (w : World) {p : WireProxyProcess} (hp : w.process = some p)
    (hpid : p.pid ≠ -1) (ht : p.terminated = false) :
    monitorTrips.run w = .ok () { w with
      process := some { p with networkDropDetected := true, monitor := .finished }
      trace := w.trace ++ [.kill (-p.pid) .sigterm] } := by
  simp [monitorTrips, hp, World.proc, hpid, ht, killGroup]

/-- The monitor's trip touches only `process_` and the trace. -/
theorem monitorTrips_frame (w : World) :
    ∃ q t, monitorTrips.run w = .ok () { w with process := q, trace := w.trace ++ t } := by
  rcases hp : w.process with _ | p
  · exact ⟨none, [], by simp [monitorTrips, World.proc, hp, WireProxyProcess.new]⟩
  by_cases h : p.pid ≠ -1 ∧ p.terminated = false
  · exact ⟨_, _, monitorTrips_run w hp h.1 h.2⟩
  · refine ⟨some { p with networkDropDetected := true, monitor := .finished }, [], ?_⟩
    simp only [not_and_or, ne_eq, not_not, Bool.not_eq_false] at h
    rcases h with h | h <;> simp [monitorTrips, World.proc, hp, h]

/-- The escalation signals the group before anything else, touches nothing but the operating
system, and leaves a child of the supervisor reaped. -/
theorem escalate_spec {pid : Int} (hpid : 0 < pid) (w : World) :
    ∃ m w', (escalate pid).run w = .ok m w' ∧ OsFrame w w' ∧
      (∃ t, w'.trace = w.trace ++ .kill (-pid) .sigterm :: t) ∧
      (w.children pid ≠ .unused → w'.children pid = .reaped) := by
  obtain ⟨w₁, h₁, hf₁, ht₁, hc₁⟩ := killGroup_frame w pid .sigterm
  obtain ⟨b, w₂, h₂, hf₂, ⟨rfl, hc₂⟩ | ⟨rfl, hc₂⟩⟩ := pollExit_spec hpid 50 w₁
  · obtain ⟨t, ht⟩ := hf₂.trace_append
    exact ⟨ascii "Graceful termination", w₂, by simp [escalate, h₁, h₂], hf₁.trans hf₂, ⟨t, by simp [ht, ht₁]⟩, fun _ => hc₂⟩
  · obtain ⟨w₃, h₃, hf₃, -, hc₃⟩ := killGroup_frame w₂ pid .sigkill
    obtain ⟨r, w₄, h₄, hf₄, hc₄⟩ := waitpidBlocking_frame w₃ pid
    obtain ⟨t, ht⟩ := (hf₂.trans (hf₃.trans hf₄)).trace_append
    refine ⟨ascii "Force killed", w₄, by simp [escalate, h₁, h₂, h₃, h₄], hf₁.trans (hf₂.trans (hf₃.trans hf₄)),
      ⟨t, by simp [ht, ht₁]⟩, fun hu => hc₄ ?_⟩
    rw [hc₃, hc₂, hc₁]
    by_cases h : w.children pid = .running <;> simp [h, hu]

/-- `terminate` on a child it has not terminated, from what its escalation returns: then
`cleanup`, or the exception of the method's assignment with the child already gone. -/
theorem terminate_of_escalate {w w₁ : World} {m : Bytes} (hpid : w.proc.pid ≠ -1)
    (ht : w.proc.terminated = false) (he : (escalate w.proc.pid).run w = .ok m w₁)
    (hf : OsFrame w w₁) :
    terminate.run w =
      if w.env.fails .terminate (w.calls .terminate) then
        .error (.std (w.env.what .terminate))
          { w₁ with calls := Function.update w.calls .terminate (w.calls .terminate + 1) }
      else .ok m { w₁ with
        calls := Function.update w.calls .terminate (w.calls .terminate + 1)
        process := w.process.map fun p => { p with
          stopMonitoring := true, monitor := .none, terminated := true, pid := -1,
          configPath := [] } } := by
  obtain ⟨henv, hcalls, -, hproc, -⟩ := hf.eq_fields
  simp only [terminate, Cmd.run_bind, Cmd.run_get, Cmd.run_pure, hpid, ht, false_or,
    Bool.false_eq_true, if_false, he, failsNow_run, henv, hcalls]
  split <;> simp [cleanup, hproc]

/-- `terminate` on a child it has not terminated: the escalation, then `cleanup`, or the
exception of the method's assignment with the child already gone. -/
theorem terminate_spec (w : World) (hpid : 0 < w.proc.pid) (ht : w.proc.terminated = false) :
    ∃ m w₁, OsFrame w w₁ ∧ (∃ t, w₁.trace = w.trace ++ .kill (-w.proc.pid) .sigterm :: t) ∧
      (w.children w.proc.pid ≠ .unused → w₁.children w.proc.pid = .reaped) ∧
      terminate.run w =
        if w.env.fails .terminate (w.calls .terminate) then
          .error (.std (w.env.what .terminate))
            { w₁ with calls := Function.update w.calls .terminate (w.calls .terminate + 1) }
        else .ok m { w₁ with
          calls := Function.update w.calls .terminate (w.calls .terminate + 1)
          process := w.process.map fun p => { p with
            stopMonitoring := true, monitor := .none, terminated := true, pid := -1,
            configPath := [] } } := by
  obtain ⟨m, w₁, he, hf, htr, hc⟩ := escalate_spec hpid w
  exact ⟨m, w₁, hf, htr, hc, terminate_of_escalate (by omega) ht he hf⟩

end WireProxyProcess

/-- Dropping a process object whose child is gone or was never forked only drops it. -/
theorem resetProcess_of_stopped (w : World) (h : w.proc.pid = -1 ∨ w.proc.terminated = true) :
    resetProcess.run w = .ok () { w with process := none } := by
  rcases hp : w.process with _ | p
  · simp [resetProcess, WireProxyProcess.destroy, World.proc, WireProxyProcess.new, hp]
  · have h' : p.pid = -1 ∨ p.terminated = true := by simpa [World.proc, hp] using h
    rcases h' with h' | h' <;> simp [resetProcess, WireProxyProcess.destroy, World.proc, hp, h']

/-- With no process object, `process_.reset()` changes nothing. -/
theorem resetProcess_of_none (w : World) (h : w.process = none) : resetProcess.run w = .ok () w := by
  rw [resetProcess_of_stopped w (by simp [World.proc, h, WireProxyProcess.new]), ← h]

/-- Dropping a process object whose child was not terminated runs `terminate` from the
destructor: the child is signalled and reaped, and a failure of `terminate` there ends the
supervisor. -/
theorem resetProcess_terminates (w : World) (hpid : 0 < w.proc.pid)
    (ht : w.proc.terminated = false) :
    ∃ w₁, OsFrame w w₁ ∧ (∃ t, w₁.trace = w.trace ++ .kill (-w.proc.pid) .sigterm :: t) ∧
      (w.children w.proc.pid ≠ .unused → w₁.children w.proc.pid = .reaped) ∧
      resetProcess.run w =
        if w.env.fails .terminate (w.calls .terminate) then
          .error .abort { w₁ with
            calls := Function.update w.calls .terminate (w.calls .terminate + 1)
            process := w.process.map fun p => { p with stopMonitoring := true, monitor := .none } }
        else .ok () { w₁ with
          calls := Function.update w.calls .terminate (w.calls .terminate + 1)
          process := none } := by
  obtain ⟨p, hp⟩ : ∃ p, w.process = some p := by
    rcases hp : w.process with _ | p
    · simp [World.proc, hp, WireProxyProcess.new] at hpid
    · exact ⟨p, rfl⟩
  cases w with
  | mk env calls tick state process config logPath logOpen nextPid children files trace refused =>
  cases hp
  simp only [World.proc, Option.getD_some] at hpid ht ⊢
  obtain ⟨m, w₁, hf, htr, hc, hrun⟩ := WireProxyProcess.terminate_spec
    { process := some { p with stopMonitoring := true, monitor := .none }, .. } hpid ht
  dsimp only [World.proc, Option.getD_some] at htr hc hrun
  rw [ht] at hrun
  obtain ⟨-, -, -, hproc, -⟩ := hf.eq_fields
  refine ⟨{ w₁ with process := some p }, hf.setProcess (some p), htr, hc, ?_⟩
  have hguard : p.pid ≠ -1 := by omega
  cases hfail : env.fails .terminate (calls .terminate) <;>
    simp only [hfail, if_true, if_false, Bool.false_eq_true] at hrun ⊢ <;>
    simp [resetProcess, WireProxyProcess.destroy, World.proc, hguard, ht, hrun, hproc]

/-- Under a reliable environment `process_.reset()` returns with `process_` null, every other
field of the dispatcher as it was, and the child the object owned signalled and reaped. -/
theorem resetProcess_inv {w : World} {r : EStateM.Result Exception World Unit}
    (hrel : w.env.Reliable) (hpid : w.proc.pid = -1 ∨ 0 < w.proc.pid)
    (h : resetProcess.run w = r) :
    ∃ w', r = .ok () w' ∧ w'.process = none ∧
      OsFrame w { w' with calls := w.calls, process := w.process } ∧
      (0 < w.proc.pid → w.proc.terminated = false → (w'.children w.proc.pid).Settled ∧
        ∃ t, w'.trace = w.trace ++ .kill (-w.proc.pid) .sigterm :: t) := by
  subst h
  by_cases hs : w.proc.pid = -1 ∨ w.proc.terminated = true
  · refine ⟨_, resetProcess_of_stopped w hs, rfl, by simpa using OsFrame.refl w, fun hp ht => ?_⟩
    simp_all
  · have hpid' : 0 < w.proc.pid := by omega
    have ht : w.proc.terminated = false := by simpa using (not_or.mp hs).2
    obtain ⟨w₁, hf, htr, hc, hrun⟩ := resetProcess_terminates w hpid' ht
    obtain ⟨-, hcalls, -, hproc, -⟩ := hf.eq_fields
    refine ⟨{ w₁ with
      calls := Function.update w.calls .terminate (w.calls .terminate + 1), process := none },
      by simp [hrun, hrel.terminate], rfl, ?_, fun _ _ => ⟨?_, htr⟩⟩
    · simpa [← hcalls, ← hproc] using hf
    · by_cases hu : w.children w.proc.pid = .unused
      · have := hf.evolves w.proc.pid
        simp_all [ChildStatus.Evolves, ChildStatus.Settled]
      · simp [hc hu, ChildStatus.Settled]

/-- When `terminate` cannot fail, on a child it has not terminated it returns after the
escalation, with the object cleaned up, its own call counted and the child reaped. -/
theorem WireProxyProcess.terminate_inv {w : World} {r : EStateM.Result Exception World Bytes}
    (hterm : ∀ n, w.env.fails .terminate n = false) (hpid : 0 < w.proc.pid)
    (ht : w.proc.terminated = false) (h : WireProxyProcess.terminate.run w = r) :
    ∃ m w', r = .ok m w' ∧
      w'.process = w.process.map (fun p => { p with
        stopMonitoring := true, monitor := .none, terminated := true, pid := -1, configPath := [] }) ∧
      w'.calls = Function.update w.calls .terminate (w.calls .terminate + 1) ∧
      OsFrame w { w' with calls := w.calls, process := w.process } ∧
      (w.children w.proc.pid ≠ .unused → w'.children w.proc.pid = .reaped) := by
  obtain ⟨m, w₁, hf, -, hc, hrun⟩ := WireProxyProcess.terminate_spec w hpid ht
  obtain ⟨-, hcalls, -, hproc, -⟩ := hf.eq_fields
  subst h
  refine ⟨m, { w₁ with
    calls := Function.update w.calls .terminate (w.calls .terminate + 1)
    process := w.process.map fun p => { p with
      stopMonitoring := true, monitor := .none, terminated := true, pid := -1, configPath := [] } },
    by simp [hrun, hterm], rfl, rfl, ?_, hc⟩
  simpa [← hcalls, ← hproc] using hf

end Wpmd
