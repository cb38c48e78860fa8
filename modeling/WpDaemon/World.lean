import Mathlib.Logic.Function.Basic
import WpDaemon.StateMachine
import WpDaemon.Json

/-!
# The supervisor, its child processes and its environment

The dispatcher's state (the state machine, `process_`, `current_config_` and the log
manager) lives in one record together with what the operating system holds for the
supervisor: its children, the session log files and the order of the signals, reaps and
file operations it causes. A command of the dispatcher is an `EStateM` program over this
record. As in C++, a thrown exception keeps every effect made before the throw;
`Exception.abort` is `std::terminate`, raised when an exception leaves a destructor.

Everything the supervisor does not decide comes from an `Env`: which calls fail (by how
many calls of the same kind came before), what the clock shows and which children exit
during each sleep (by a tick counting sleeps and clock readings), and the configuration
directory. A run quantifies over every `Env`, so over every failure pattern and every
timing of child exits.
-/

namespace Wpmd

/-- A signal the supervisor sends to a process group. -/
inductive Signal
  | sigterm
  | sigkill
  deriving DecidableEq, Repr

/-- What the supervisor's process table holds for a process id. -/
inductive ChildStatus
  /-- Not a child of the supervisor. -/
  | unused
  /-- A child that has not exited. -/
  | running
  /-- A child that has exited and was not yet reaped by `waitpid`. -/
  | zombie
  /-- A child that `waitpid` has reaped. -/
  | reaped
  deriving DecidableEq, Repr

/-- A block of a session log file. -/
inductive LogBlock
  /-- The header `create_log` writes. -/
  | header (timestamp : Int) (config version : Bytes)
  /-- The teardown footer `finalize` writes. -/
  | footer (timestamp : Int) (reason : Bytes)
  deriving DecidableEq, Repr

/-- What the supervisor does to the operating system, in the order it happens. -/
inductive OsEvent
  | fork (pid : Int)
  | reap (pid : Int)
  | kill (target : Int) (sig : Signal)
  /-- `fopen(path.c_str(), "w")` in `create_log`, with the file it opened. -/
  | opened (file : Bytes)
  /-- The footer written and the file closed by `finalize`. -/
  | finalized (file : Bytes)
  /-- `fclose` of a still open log at the start of `create_log`, with no footer. -/
  | abandoned (file : Bytes)
  deriving DecidableEq, Repr

/-- The calls whose success the environment decides. -/
inductive Fallible
  | getVersion
  | createLog
  | fork
  | monitorThread
  | terminate
  | finalize
  | listConfigs
  deriving DecidableEq, Repr

/-- Everything the supervisor does not decide itself. -/
structure Env where
  /-- Whether the `n`-th call of a kind, counted from zero, fails. -/
  fails : Fallible → Nat → Bool
  /-- The `what()` of the exception a failing call throws. -/
  what : Fallible → Bytes
  /-- The whole seconds `system_clock` shows at a tick. -/
  clock : Nat → Int
  /-- Whether a running child exits during the sleep at a tick. -/
  exits : Nat → Int → Bool
  /-- `get_argus_dir()`. -/
  argusDir : Bytes
  /-- Whether `stat` of a path finds a regular file. -/
  isRegularFile : Bytes → Bool
  /-- The `strerror` text of a `stat` of a path that fails other than by finding no file
  (`ENOENT`, `ENOTDIR`): `ENAMETOOLONG` for a component longer than `NAME_MAX`, `EACCES`,
  `ELOOP`. -/
  statError : Bytes → Option Bytes
  /-- The entries of the configuration directory: file name, and whether it is a regular
  file. -/
  configEntries : List (Bytes × Bool)
  /-- What `BinaryManager::get_version` returns. -/
  version : Bytes
  /-- `WPDAEMON_VERSION`. -/
  daemonVersion : Bytes

/-- An environment in which `get_version`, `terminate` and `finalize` never fail, while
`create_log`, `fork`, the monitor thread's start and the directory listing still may. -/
structure Env.Reliable (env : Env) : Prop where
  getVersion : ∀ n, env.fails .getVersion n = false
  terminate : ∀ n, env.fails .terminate n = false
  finalize : ∀ n, env.fails .finalize n = false

/-- `monitor_thread_`: not started (or joined), running, or returned and not yet joined. -/
inductive MonitorThread
  | none
  | running
  | finished
  deriving DecidableEq, Repr

/-- The fields of a `WireProxyProcess` that its methods read and write. -/
structure WireProxyProcess where
  pid : Int
  terminated : Bool
  networkDropDetected : Bool
  stopMonitoring : Bool
  monitor : MonitorThread
  configPath : Bytes
  deriving DecidableEq, Repr

/-- The object `std::make_unique<WireProxyProcess>` builds: no child yet (`pid_ = -1`). -/
def WireProxyProcess.new : WireProxyProcess :=
  ⟨-1, false, false, false, .none, []⟩

/-- The dispatcher with its collaborators, and the operating system around it. -/
structure World where
  env : Env
  /-- Calls of each fallible kind made so far. -/
  calls : Fallible → Nat
  /-- Sleeps and clock readings so far. -/
  tick : Nat
  /-- `StateMachine::current_state_`. -/
  state : State
  /-- `CommandHandler::process_`. -/
  process : Option WireProxyProcess
  /-- `CommandHandler::current_config_`. -/
  currentConfig : Bytes
  /-- `LogManager::current_log_path_`. -/
  currentLogPath : Bytes
  /-- `LogManager::log_file_ != nullptr`. -/
  logOpen : Bool
  /-- The process id the next successful `fork` returns. -/
  nextPid : Int
  children : Int → ChildStatus
  /-- The log files, by the name the C library opens: the path cut at its first NUL. -/
  files : Bytes → List LogBlock
  trace : List OsEvent
  /-- Ghost state for the proofs, held by no C++ object: the moves `transition_to` refused,
  each as the state at the call and the state asked for, in order. -/
  refused : List (State × State)

/-- A C++ exception leaving a call: a `std::exception` with its `what()`, or the end of the
process by `std::terminate`. -/
inductive Exception
  | std (what : Bytes)
  | abort

/-- A computation of the supervisor. -/
abbrev Cmd := EStateM Exception World

/-- `catch (const std::exception& e)`: a handler for standard exceptions only. -/
def catchStd {α : Type} (body : Cmd α) (handler : Bytes → Cmd α) : Cmd α :=
  tryCatch body fun
    | .std what => handler what
    | .abort => throw .abort

namespace Cmd

variable {α β : Type} (w : World)

/-- `pure` returns its value and changes nothing. -/
@[simp] theorem run_pure (a : α) : (pure a : Cmd α).run w = .ok a w := rfl

/-- `get` returns the world as it is. -/
@[simp] theorem run_get : (get : Cmd World).run w = .ok w w := rfl

/-- `set` replaces the world. -/
@[simp] theorem run_set (w' : World) : (set w' : Cmd Unit).run w = .ok () w' := rfl

/-- `modify` applies its function to the world. -/
@[simp] theorem run_modify (f : World → World) : (modify f : Cmd Unit).run w = .ok () (f w) :=
  rfl

/-- `modifyGet` returns the first part of its function's result and keeps the second. -/
@[simp] theorem run_modifyGet (f : World → α × World) :
    (modifyGet f : Cmd α).run w = .ok (f w).1 (f w).2 := rfl

/-- `throw` stops with its exception, keeping the world as it is. -/
@[simp] theorem run_throw (e : Exception) : (throw e : Cmd α).run w = .error e w := rfl

/-- A sequence runs its second part from where the first returned, and stops at a throw. -/
@[simp] theorem run_bind (x : Cmd α) (f : α → Cmd β) :
    (x >>= f).run w = match x.run w with
      | .ok a w' => (f a).run w'
      | .error e w' => .error e w' := by
  show EStateM.bind x f w = _
  delta EStateM.run
  simp only [EStateM.bind]
  cases x w <;> rfl

/-- A mapped computation runs as it is and maps what it returns. -/
@[simp] theorem run_map (f : α → β) (x : Cmd α) :
    (f <$> x).run w = match x.run w with
      | .ok a w' => .ok (f a) w'
      | .error e w' => .error e w' := by
  show EStateM.map f x w = _
  delta EStateM.run
  simp only [EStateM.map]
  cases x w <;> rfl

/-- `discard` runs its computation and forgets what it returns. -/
@[simp] theorem run_discard (x : Cmd α) :
    (discard x).run w = match x.run w with
      | .ok _ w' => .ok () w'
      | .error e w' => .error e w' :=
  run_map w _ x

/-- A handler runs from where its body threw, whatever the exception. -/
@[simp] theorem run_tryCatch (body : Cmd α) (handler : Exception → Cmd α) :
    (tryCatch body handler).run w = match body.run w with
      | .ok a w' => .ok a w'
      | .error e w' => (handler e).run w' := by
  show EStateM.tryCatch body _ w = _
  delta EStateM.run
  simp only [EStateM.tryCatch]
  cases body w <;> rfl

/-- A `catch` block runs from where its body threw a standard exception. -/
@[simp] theorem run_catchStd (body : Cmd α) (handler : Bytes → Cmd α) :
    (catchStd body handler).run w = match body.run w with
      | .ok a w' => .ok a w'
      | .error (.std what) w' => (handler what).run w'
      | .error .abort w' => .error .abort w' := by
  show EStateM.tryCatch body _ w = _
  delta EStateM.run
  simp only [EStateM.tryCatch]
  rcases body w with _ | ⟨_ | _, _⟩ <;> rfl

end Cmd

namespace World

/-- The object `process_` points to; a null pointer reads as an object with no child, which
no call site reaches. -/
def proc (w : World) : WireProxyProcess := w.process.getD .new

/-- `waitpid` reaping a child. -/
def reap (w : World) (pid : Int) : World :=
  { w with children := Function.update w.children pid .reaped, trace := w.trace ++ [.reap pid] }

/-- A running child exits on its own. -/
def childExit (w : World) (pid : Int) : World :=
  { w with children := Function.update w.children pid .zombie }

end World

/-- Apply `f` to the object `process_` points to. -/
def modifyProcess (f : WireProxyProcess → WireProxyProcess) : Cmd Unit :=
  modify fun w => { w with process := w.process.map f }

/-- Count a call of kind `c` and tell whether the environment makes it fail. -/
def failsNow (c : Fallible) : Cmd Bool :=
  modifyGet fun w => (w.env.fails c (w.calls c),
    { w with calls := Function.update w.calls c (w.calls c + 1) })

/-- `std::chrono::system_clock::now()` in whole seconds. -/
def clockNow : Cmd Int :=
  modifyGet fun w => (w.env.clock w.tick, { w with tick := w.tick + 1 })

/-- A child's status after a sleep during which the environment says whether it exits. -/
def ChildStatus.afterSleep : ChildStatus → Bool → ChildStatus
  | .running, true => .zombie
  | .running, false => .running
  | .zombie, _ => .zombie
  | .unused, _ => .unused
  | .reaped, _ => .reaped

/-- A running child exits during a sleep exactly when the environment says so. -/
@[simp] theorem ChildStatus.afterSleep_running (b : Bool) :
    ChildStatus.running.afterSleep b = if b then .zombie else .running := by
  cases b <;> rfl

/-- An exited child stays exited through a sleep. -/
@[simp] theorem ChildStatus.afterSleep_zombie (b : Bool) : ChildStatus.zombie.afterSleep b = .zombie :=
  rfl

/-- A sleep creates no child. -/
@[simp] theorem ChildStatus.afterSleep_unused (b : Bool) : ChildStatus.unused.afterSleep b = .unused :=
  rfl

/-- A reaped child stays reaped through a sleep. -/
@[simp] theorem ChildStatus.afterSleep_reaped (b : Bool) : ChildStatus.reaped.afterSleep b = .reaped :=
  rfl

/-- A sleep leaves a child as it was unless it exited. -/
theorem ChildStatus.afterSleep_eq_self {s : ChildStatus} {b : Bool} (h : s.afterSleep b ≠ .zombie) :
    s.afterSleep b = s := by
  cases s <;> cases b <;> simp_all [afterSleep]

/-- The world after a sleep during which the children the environment chooses exit. -/
def World.sleep (w : World) : World := { w with
  tick := w.tick + 1
  children := fun p => (w.children p).afterSleep (w.env.exits w.tick p) }

/-- After a sleep each child has exited or not as the environment says. -/
@[simp] theorem World.sleep_children (w : World) (p : Int) :
    w.sleep.children p = (w.children p).afterSleep (w.env.exits w.tick p) := rfl

/-- `std::this_thread::sleep_for`. -/
def sleepFor : Cmd Unit := modify World.sleep

/-- `fork()`: the new child's id, or `-1` when it fails. The child makes itself the leader of
its own process group before anything else. -/
def fork : Cmd Int := do
  if ← failsNow .fork then return -1
  modifyGet fun w => (w.nextPid, { w with
    nextPid := w.nextPid + 1
    children := Function.update w.children w.nextPid .running
    trace := w.trace ++ [.fork w.nextPid] })

/-- `waitpid(pid, &status, WNOHANG)`: `0` while the child runs, `pid` after reaping an exited
child, `-1` when there is no such child. -/
def waitpidNoHang (pid : Int) : Cmd Int := fun w =>
  match w.children pid with
  | .running => .ok 0 w
  | .zombie => .ok pid (w.reap pid)
  | _ => .ok (-1) w

/-- `waitpid(pid, &status, 0)`: waits for the child to exit and reaps it. A run in which the
child never exits has no later command boundary, so here the child exits. -/
def waitpidBlocking (pid : Int) : Cmd Int := fun w =>
  match w.children pid with
  | .running | .zombie => .ok pid (w.reap pid)
  | _ => .ok (-1) w

/-- `kill(-pid, sig)`: `SIGKILL` ends a running group leader at once; what the child does on
`SIGTERM` is up to it. -/
def killGroup (pid : Int) (sig : Signal) : Cmd Unit :=
  modify fun w => { w with
    trace := w.trace ++ [.kill (-pid) sig]
    children := if sig = .sigkill ∧ w.children pid = .running then
      Function.update w.children pid .zombie else w.children }

/-- `state_machine_.transition_to(new_state)`; a refused move is also written to the ghost
log `refused`. -/
def transitionTo (new : State) : Cmd Bool :=
  modifyGet fun w =>
    let (s, taken) := StateMachine.transitionTo w.state new
    (taken, { w with
      state := s
      refused := if taken then w.refused else w.refused ++ [(w.state, new)] })

section Primitives

variable (w : World)

/-- Changing `process_` touches nothing else. -/
@[simp] theorem modifyProcess_run (f : WireProxyProcess → WireProxyProcess) :
    (modifyProcess f).run w = .ok () { w with process := w.process.map f } := rfl

/-- Asking whether a call fails reads the environment at the call's count and counts it. -/
@[simp] theorem failsNow_run (c : Fallible) :
    (failsNow c).run w = .ok (w.env.fails c (w.calls c))
      { w with calls := Function.update w.calls c (w.calls c + 1) } := rfl

/-- Reading the clock returns the seconds it shows at the tick and advances the tick. -/
@[simp] theorem clockNow_run :
    clockNow.run w = .ok (w.env.clock w.tick) { w with tick := w.tick + 1 } := rfl

/-- `transition_to` takes the move its table allows, and logs a refused one. -/
@[simp] theorem transitionTo_run (new : State) :
    (transitionTo new).run w = .ok (StateMachine.transitionTo w.state new).2 { w with
      state := (StateMachine.transitionTo w.state new).1
      refused := if (StateMachine.transitionTo w.state new).2 then w.refused
        else w.refused ++ [(w.state, new)] } := rfl

/-- A sleep is `World.sleep`. -/
@[simp] theorem sleepFor_run : sleepFor.run w = .ok () w.sleep := rfl

/-- `fork` gives the next pid to a new running child, or returns `-1` when it fails. -/
@[simp] theorem fork_run : fork.run w =
    if w.env.fails .fork (w.calls .fork) then
      .ok (-1) { w with calls := Function.update w.calls .fork (w.calls .fork + 1) }
    else .ok w.nextPid { w with
      calls := Function.update w.calls .fork (w.calls .fork + 1)
      nextPid := w.nextPid + 1
      children := Function.update w.children w.nextPid .running
      trace := w.trace ++ [.fork w.nextPid] } := by
  simp only [fork, Cmd.run_bind, failsNow_run]
  split <;> rfl

end Primitives

/-! ### Signals, sleeps and reaps change only the operating system -/

/-- What a child's status can become without a new `fork`: it exits, then it is reaped. -/
def ChildStatus.Evolves : ChildStatus → ChildStatus → Prop
  | .unused, s => s = .unused
  | .running, s => s ≠ .unused
  | .zombie, s => s = .zombie ∨ s = .reaped
  | .reaped, s => s = .reaped

/-- A status is a later status of itself. -/
theorem ChildStatus.Evolves.refl (s : ChildStatus) : s.Evolves s := by
  cases s <;> simp [Evolves]

/-- Later statuses of later statuses are later statuses. -/
theorem ChildStatus.Evolves.trans {a b c : ChildStatus} (hab : a.Evolves b) (hbc : b.Evolves c) :
    a.Evolves c := by
  cases a <;> cases b <;> cases c <;> simp_all [Evolves]

/-- A sleep moves a child along its life. -/
theorem ChildStatus.evolves_afterSleep (s : ChildStatus) (b : Bool) : s.Evolves (s.afterSleep b) := by
  cases s <;> cases b <;> simp [Evolves, afterSleep]

/-- A status with nothing left to reap: never a child, or already reaped. -/
def ChildStatus.Settled (s : ChildStatus) : Prop := s = .unused ∨ s = .reaped

/-- A settled child stays settled. -/
theorem ChildStatus.Settled.evolves {a b : ChildStatus} (ha : a.Settled) (h : a.Evolves b) :
    b.Settled := by
  rcases ha with rfl | rfl <;> simp_all [Evolves, Settled]

/-- `w'` is `w` after sleeps, signals and reaps: only the tick, the process table (each
child evolving) and the end of the trace differ. -/
def OsFrame (w w' : World) : Prop :=
  ∃ tick children t, (∀ p, (w.children p).Evolves (children p)) ∧
    w' = { w with tick := tick, children := children, trace := w.trace ++ t }

namespace OsFrame

/-- A world is a frame of itself. -/
theorem refl (w : World) : OsFrame w w :=
  ⟨w.tick, w.children, [], fun _ => .refl _, by simp⟩

/-- Frames compose. -/
theorem trans {w₁ w₂ w₃ : World} (h₁₂ : OsFrame w₁ w₂) (h₂₃ : OsFrame w₂ w₃) : OsFrame w₁ w₃ := by
  obtain ⟨k, c, t, hc, rfl⟩ := h₁₂
  obtain ⟨k', c', t', hc', rfl⟩ := h₂₃
  exact ⟨k', c', t ++ t', fun p => (hc p).trans (hc' p), by simp⟩

/-- An exit or a reap changes one child along its life. -/
theorem update {w : World} {pid : Int} {s : ChildStatus} (hs : (w.children pid).Evolves s)
    (t : List OsEvent) :
    OsFrame w { w with children := Function.update w.children pid s, trace := w.trace ++ t } := by
  refine ⟨w.tick, _, t, fun p => ?_, rfl⟩
  by_cases hp : p = pid
  · subst hp; simpa using hs
  · simpa [Function.update_noteq hp] using ChildStatus.Evolves.refl _

/-- A frame step does not look at `process_`. -/
theorem setProcess {w w' : World} (h : OsFrame w w') (q : Option WireProxyProcess) :
    OsFrame { w with process := q } { w' with process := q } := by
  obtain ⟨k, c, t, hc, rfl⟩ := h
  exact ⟨k, c, t, hc, rfl⟩

/-- A sleep is a frame step. -/
theorem sleep (w : World) : OsFrame w w.sleep :=
  ⟨w.tick + 1, fun p => (w.children p).afterSleep (w.env.exits w.tick p), [],
    fun _ => ChildStatus.evolves_afterSleep _ _, by simp [World.sleep]⟩

variable {w w' : World}

/-- A frame step only appends to the trace. -/
theorem trace_append (h : OsFrame w w') : ∃ t, w'.trace = w.trace ++ t := by
  obtain ⟨_, _, t, _, rfl⟩ := h
  exact ⟨t, rfl⟩

/-- The dispatcher's fields, the files and the counters are untouched by a frame step. -/
theorem eq_fields (h : OsFrame w w') : w'.env = w.env ∧ w'.calls = w.calls ∧
    w'.state = w.state ∧ w'.process = w.process ∧ w'.currentConfig = w.currentConfig ∧
    w'.currentLogPath = w.currentLogPath ∧ w'.logOpen = w.logOpen ∧ w'.nextPid = w.nextPid ∧
    w'.files = w.files := by
  obtain ⟨_, _, _, _, rfl⟩ := h
  exact ⟨rfl, rfl, rfl, rfl, rfl, rfl, rfl, rfl, rfl⟩

/-- A child's status only moves along its life in a frame step. -/
theorem evolves (h : OsFrame w w') (p : Int) : (w.children p).Evolves (w'.children p) := by
  obtain ⟨_, _, _, hc, rfl⟩ := h
  exact hc p

end OsFrame

/-- Reaping a child that exists changes only the operating system. -/
theorem World.reap_frame {w : World} {pid : Int} (h : w.children pid ≠ .unused) :
    OsFrame w (w.reap pid) :=
  OsFrame.update (by cases hc : w.children pid <;> simp_all [ChildStatus.Evolves]) _

/-- A non-blocking `waitpid` reaps an exited child and changes nothing else. -/
theorem waitpidNoHang_spec (w : World) (pid : Int) :
    (waitpidNoHang pid).run w =
      match w.children pid with
      | .running => .ok 0 w
      | .zombie => .ok pid (w.reap pid)
      | _ => .ok (-1) w := rfl

/-- A blocking `waitpid` reaps a child that is running or has exited. -/
theorem waitpidBlocking_spec (w : World) (pid : Int) :
    (waitpidBlocking pid).run w =
      match w.children pid with
      | .running | .zombie => .ok pid (w.reap pid)
      | _ => .ok (-1) w := rfl

/-- A non-blocking `waitpid` on a child's id returns that id exactly when it reaps the exited
child; otherwise the child had not exited and nothing changes. -/
theorem waitpidNoHang_frame (w : World) {pid : Int} (hpid : 0 < pid) :
    ∃ r w', (waitpidNoHang pid).run w = .ok r w' ∧ OsFrame w w' ∧
      ((r = pid ∧ w'.children pid = .reaped) ∨ (r ≠ pid ∧ w' = w ∧ w.children pid ≠ .zombie)) := by
  cases hc : w.children pid with
  | zombie => exact ⟨pid, w.reap pid, by simp [waitpidNoHang_spec, hc],
      World.reap_frame (by simp [hc]), .inl ⟨rfl, by simp [World.reap]⟩⟩
  | running => exact ⟨0, w, by simp [waitpidNoHang_spec, hc], .refl w, .inr ⟨hpid.ne, rfl, by simp⟩⟩
  | unused => exact ⟨-1, w, by simp [waitpidNoHang_spec, hc], .refl w, .inr ⟨by omega, rfl, by simp⟩⟩
  | reaped => exact ⟨-1, w, by simp [waitpidNoHang_spec, hc], .refl w, .inr ⟨by omega, rfl, by simp⟩⟩

/-- A blocking `waitpid` leaves every child the supervisor had reaped. -/
theorem waitpidBlocking_frame (w : World) (pid : Int) :
    ∃ r w', (waitpidBlocking pid).run w = .ok r w' ∧ OsFrame w w' ∧
      (w.children pid ≠ .unused → w'.children pid = .reaped) := by
  cases hc : w.children pid with
  | running | zombie => exact ⟨pid, w.reap pid, by simp [waitpidBlocking_spec, hc],
      World.reap_frame (by simp [hc]), fun _ => by simp [World.reap]⟩
  | unused => exact ⟨-1, w, by simp [waitpidBlocking_spec, hc], .refl w, fun h => absurd rfl h⟩
  | reaped => exact ⟨-1, w, by simp [waitpidBlocking_spec, hc], .refl w, fun _ => hc⟩

/-- `kill` appends to the trace; `SIGKILL` ends a running child. -/
theorem killGroup_frame (w : World) (pid : Int) (sig : Signal) :
    ∃ w', (killGroup pid sig).run w = .ok () w' ∧ OsFrame w w' ∧
      w'.trace = w.trace ++ [.kill (-pid) sig] ∧
      w'.children pid = if sig = .sigkill ∧ w.children pid = .running then .zombie
        else w.children pid := by
  refine ⟨_, rfl, ?_, rfl, ?_⟩
  · by_cases h : sig = .sigkill ∧ w.children pid = .running
    · simpa [killGroup, h] using OsFrame.update (s := .zombie) (by simp [h.2, ChildStatus.Evolves])
        [.kill (-pid) sig]
    · exact ⟨w.tick, w.children, [.kill (-pid) sig], fun _ => .refl _, by simp [killGroup, h]⟩
  · by_cases h : sig = .sigkill ∧ w.children pid = .running <;> simp [killGroup, h]

end Wpmd
