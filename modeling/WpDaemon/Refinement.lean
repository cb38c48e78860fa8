import WpDaemon.Invariant

/-!
# The abstract supervisor

What the daemon is for, stated without processes, files or failures: it holds no session or
one session (a configuration, the child's id, its log, and whether the child still runs);
`spin_up` opens a session only when there is none, `spin_down` closes it, and `state` reports
it while its child runs and closes it once the child has exited. The child's exit is a step
of the abstract run of its own, between two commands and with no reply. The abstract
transitions form a relation, since a `spin_up` may fail.

`session` reads the abstract state off the dispatcher, the child's liveness included. Under
an environment in which `get_version`, `terminate` and `finalize` succeed, every run of the
supervisor, with children exiting and the monitor tripping between commands, answers its
command lines as the abstract supervisor does (`execute_refines`): a probe reports a running
child exactly when the session's child has not exited.
-/

namespace Wpmd

open CommandHandler ConfigManager

/-- A session of the abstract supervisor, and whether its child still runs. -/
structure Session where
  config : Bytes
  pid : Int
  logFile : Bytes
  alive : Bool
  deriving DecidableEq, Repr

/-- What a command line asks of the abstract supervisor. -/
inductive Request
  | spinUp (configName : Bytes)
  | spinDown
  | state
  /-- Every other line, which leaves the session alone. -/
  | other
  deriving DecidableEq, Repr

/-- The request of a command line, read as `execute` reads it: the name before the first
colon and, for `spin_up`, the first argument. -/
def Request.parse (line : Bytes) : Request :=
  match findByte 58 line with
  | none => .other
  | some colonPos =>
    let cmd := line.take colonPos
    if cmd = ascii "spin_up" then
      match parseArgs (line.drop (colonPos + 1)) with
      | [] => .other
      | configName :: _ => .spinUp configName
    else if cmd = ascii "spin_down" then .spinDown
    else if cmd = ascii "state" then .state
    else .other

/-- One command of the abstract supervisor: the session before, the request, the reply and
the session after. -/
inductive AbsStep : Option Session → Request → Json → Option Session → Prop
  | startOk (name : Bytes) (pid : Int) (logFile : Bytes) :
      AbsStep none (.spinUp name) (spinUpReply (normalizeConfigName name) pid logFile)
        (some ⟨normalizeConfigName name, pid, logFile, true⟩)
  | startFailed (name msg : Bytes) :
      AbsStep none (.spinUp name) (errorReply (ascii "spin_up") msg) none
  | startBusy (s : Session) (name : Bytes) :
      AbsStep (some s) (.spinUp name)
        (errorReply (ascii "spin_up") (alreadyRunningMessage s.config)) (some s)
  | stop (s : Session) : AbsStep (some s) .spinDown (spinDownReply s.config s.logFile) none
  | stopIdle :
      AbsStep none .spinDown (errorReply (ascii "spin_down") (ascii "WireProxy is not running")) none
  | probeLive (s : Session) (h : s.alive = true) :
      AbsStep (some s) .state (runningStateReply s.config s.pid s.logFile) (some s)
  | probeDead (s : Session) (h : s.alive = false) :
      AbsStep (some s) .state (stoppedStateReply s.logFile) none
  | probeIdle (logFile : Bytes) : AbsStep none .state (stoppedStateReply logFile) none
  | other (s : Option Session) (r : Json) : AbsStep s .other r s

/-- A run of the abstract supervisor over requests and their replies. Between two requests
the child of a session may exit, which no reply shows. -/
inductive AbsRun : Option Session → List (Request × Json) → Option Session → Prop
  | nil (s : Option Session) : AbsRun s [] s
  | cons {s s' s'' : Option Session} {q : Request} {r : Json} {rest : List (Request × Json)} :
      AbsStep s q r s' → AbsRun s' rest s'' → AbsRun s ((q, r) :: rest) s''
  | exit {x : Session} {rest : List (Request × Json)} {s'' : Option Session} :
      AbsRun (some { x with alive := false }) rest s'' → AbsRun (some x) rest s''

/-- The session a dispatcher holds: while it runs, its configuration, child and log, and
whether the child has not exited yet. -/
def session (w : World) : Option Session :=
  match w.state, w.process with
  | .running, some p => some ⟨w.currentConfig, p.pid, w.currentLogPath, w.children p.pid = .running⟩
  | _, _ => none

/-- The dispatcher at a command boundary: idle, or running one session. -/
def Consistent (w : World) : Prop := Idle w ∨ ∃ p, Active w p

theorem Idle.session_eq {w : World} (hw : Idle w) : session w = none := by
  simp [session, hw.state]

theorem Active.session_eq {w : World} {p : WireProxyProcess} (hw : Active w p) :
    session w = some ⟨w.currentConfig, p.pid, w.currentLogPath, w.children p.pid = .running⟩ := by
  simp [session, hw.state, hw.process]

/-- Counting calls changes neither the shape of the dispatcher nor its session. -/
theorem Consistent.withCalls {w : World} (hw : Consistent w) (calls : Fallible → Nat) :
    Consistent { w with calls := calls } := by
  rcases hw with h | ⟨p, h⟩
  · exact .inl ⟨h.state, h.process, h.config, h.logClosed, h.settled, h.nextPid⟩
  · exact .inr ⟨p, h.state, h.process, h.pid, h.notTerminated, h.live, h.settled, h.config,
      h.logOpen, h.nextPid⟩

/-- `execute` runs the handler of the line's request; a line of no request only counts calls. -/
theorem execute_cases (line : Bytes) (w : World) :
    match Request.parse line with
    | .spinUp name => (execute line).run w =
        (catchStd (handleSpinUp name) fun what => pure (errorReply (ascii "spin_up") what)).run w
    | .spinDown => (execute line).run w =
        (catchStd handleSpinDown fun what => pure (errorReply (ascii "spin_down") what)).run w
    | .state => (execute line).run w =
        (catchStd handleState fun what => pure (errorReply (ascii "state") what)).run w
    | .other => ∃ r calls, (execute line).run w = .ok r { w with calls := calls } := by
  have hdu : ascii "spin_down" ≠ ascii "spin_up" := by decide
  have hsu : ascii "state" ≠ ascii "spin_up" := by decide
  have hsd : ascii "state" ≠ ascii "spin_down" := by decide
  unfold Request.parse execute
  rcases findByte 58 line with _ | i
  · exact ⟨_, w.calls, rfl⟩
  dsimp only
  by_cases hup : line.take i = ascii "spin_up"
  · rcases parseArgs (line.drop (i + 1)) with _ | ⟨name, _⟩
    · simp only [hup, if_true]
      exact ⟨errorReply (ascii "spin_up") (ascii "Not enough args: spin_up requires config name"),
        w.calls, by simp [dispatch, hup]⟩
    · simp [dispatch, hup]
  by_cases hdown : line.take i = ascii "spin_down"
  · simp [dispatch, hdown, hdu]
  by_cases hstate : line.take i = ascii "state"
  · simp [dispatch, hstate, hsu, hsd]
  simp only [hup, hdown, hstate, if_false]
  by_cases hconfs : line.take i = ascii "available_confs"
  · simp only [dispatch, if_neg hup, if_neg hdown, if_neg hstate, if_pos hconfs]
    by_cases hf : w.env.fails .listConfigs (w.calls .listConfigs) = true <;>
      simp [handleAvailableConfs, listConfigs, hf]
  · simp only [dispatch, if_neg hup, if_neg hdown, if_neg hstate, if_neg hconfs]
    split_ifs <;> exact ⟨_, w.calls, rfl⟩

theorem execute_of_spinUp {line name : Bytes} (h : Request.parse line = .spinUp name)
    {w w' : World} {r : Json} (hrun : (handleSpinUp name).run w = .ok r w') :
    (execute line).run w = .ok r w' := by
  have hc := execute_cases line w
  rw [h] at hc
  rw [hc, Cmd.run_catchStd, hrun]

theorem execute_of_spinDown {line : Bytes} (h : Request.parse line = .spinDown)
    {w w' : World} {r : Json} (hrun : handleSpinDown.run w = .ok r w') :
    (execute line).run w = .ok r w' := by
  have hc := execute_cases line w
  rw [h] at hc
  rw [hc, Cmd.run_catchStd, hrun]

theorem execute_of_state {line : Bytes} (h : Request.parse line = .state)
    {w w' : World} {r : Json} (hrun : handleState.run w = .ok r w') :
    (execute line).run w = .ok r w' := by
  have hc := execute_cases line w
  rw [h] at hc
  rw [hc, Cmd.run_catchStd, hrun]

/-- One command from a consistent dispatcher: the reply and the new session are a step of the
abstract supervisor, and the dispatcher is consistent again. -/
theorem execute_step {w : World} (hrel : w.env.Reliable) (hw : Consistent w) (line : Bytes) :
    ∃ r w', (execute line).run w = .ok r w' ∧ w'.env = w.env ∧ Consistent w' ∧
      AbsStep (session w) (Request.parse line) r (session w') := by
  have hc := execute_cases line w
  generalize Request.parse line = q at hc ⊢
  cases q <;> simp only at hc
  case spinUp name =>
    rcases hw with hw | ⟨p, hw⟩
    · obtain ⟨r, w', hrun, henv, ⟨p, hp, hch, hconf, rfl⟩ | ⟨⟨msg, rfl⟩, hi⟩⟩ :=
        handleSpinUp_idle hrel hw name
      · refine ⟨_, w', by rw [hc, hrun], henv, .inr ⟨p, hp⟩, ?_⟩
        rw [hw.session_eq, hp.session_eq, hconf, hch, decide_eq_true rfl]
        exact .startOk _ _ _
      · exact ⟨_, w', by rw [hc, hrun], henv, .inl hi, by
          rw [hw.session_eq, hi.session_eq]; exact .startFailed _ _⟩
    · exact ⟨_, w, by rw [hc, Cmd.run_catchStd, handleSpinUp_of_ne_idle (by simp [hw.state])], rfl, .inr ⟨p, hw⟩, by
        rw [hw.session_eq]; exact .startBusy _ _⟩
  case spinDown =>
    rcases hw with hw | ⟨p, hw⟩
    · exact ⟨_, w, by rw [hc, Cmd.run_catchStd, handleSpinDown_of_ne_running (by simp [hw.state])], rfl, .inl hw, by
        rw [hw.session_eq]; exact .stopIdle⟩
    · obtain ⟨w', hrun, henv, hi, -⟩ := handleSpinDown_active hrel hw
      exact ⟨_, w', by rw [hc, Cmd.run_catchStd, hrun], henv, .inl hi, by
        rw [hw.session_eq, hi.session_eq]; exact .stop _⟩
  case state =>
    rcases hw with hw | ⟨p, hw⟩
    · exact ⟨_, w, by rw [hc, Cmd.run_catchStd, handleState_of_ne_running (by simp [hw.state])], rfl, .inl hw, by
        rw [hw.session_eq]; exact .probeIdle _⟩
    · obtain ⟨r, w', hrun, henv, ⟨rfl, rfl, hch⟩ | ⟨rfl, hi, hch⟩⟩ := handleState_active hrel hw
      · exact ⟨_, _, by rw [hc, Cmd.run_catchStd, hrun], henv, .inr ⟨p, hw⟩, by
          rw [hw.session_eq]; exact .probeLive _ (decide_eq_true hch)⟩
      · exact ⟨_, w', by rw [hc, Cmd.run_catchStd, hrun], henv, .inl hi, by
          rw [hw.session_eq, hi.session_eq]; exact .probeDead _ (decide_eq_false hch)⟩
  case other =>
    obtain ⟨r, calls, hrun⟩ := hc
    exact ⟨r, _, hrun, rfl, hw.withCalls calls, .other _ _⟩

/-- A step between command boundaries keeps the dispatcher consistent, and is a step of the
abstract supervisor: a command's reply is one of its replies, the monitor's trip leaves the
session as it was, and a child's exit marks the session's child as no longer running. -/
theorem step_refines {w w' : World} {o : Option (Bytes × Json)} (hrel : w.env.Reliable)
    (hw : Consistent w) (h : Step w o w') :
    w'.env = w.env ∧ Consistent w' ∧
      match o with
      | none => session w' = session w ∨
          ∃ x, session w = some x ∧ session w' = some { x with alive := false }
      | some (line, r) => AbsStep (session w) (Request.parse line) r (session w') := by
  cases h with
  | execute hrun =>
    obtain ⟨r, w'', hrun', henv, hc, hstep⟩ := execute_step hrel hw _
    obtain ⟨⟩ := hrun.symm.trans hrun'
    exact ⟨henv, hc, hstep⟩
  | childExits pid hrunning =>
    rcases hw with hw | ⟨p, hw⟩
    · rcases hw.settled pid with h | h <;> simp [h] at hrunning
    have hpid : pid = p.pid := by
      by_contra hne
      rcases hw.settled pid hne with h | h <;> simp [h] at hrunning
    subst hpid
    exact ⟨rfl, .inr ⟨p, hw.childExit⟩, .inr ⟨_, hw.session_eq,
      by simp [session, World.childExit, hw.state, hw.process]⟩⟩
  | monitorTrips hmon _ hrun =>
    rcases hw with hw | ⟨p, hw⟩
    · simp [World.proc, hw.process, WireProxyProcess.new] at hmon
    rw [WireProxyProcess.monitorTrips_run w hw.process (by have := hw.pid; omega) hw.notTerminated] at hrun
    obtain ⟨⟩ := hrun
    exact ⟨rfl, .inr ⟨_, hw.state, rfl, hw.pid, hw.notTerminated, hw.live, hw.settled, hw.config,
      hw.logOpen, hw.nextPid⟩, .inl (by simp [session, hw.state, hw.process])⟩

/-- The world a supervisor starts in is idle. -/
theorem World.init_idle (env : Env) : Idle (World.init env) :=
  ⟨rfl, rfl, rfl, rfl, fun _ => .inl rfl, show (0 : Int) < 2 by decide⟩

/-- Along any run from a consistent dispatcher, the lines and replies of the commands form a
run of the abstract supervisor. -/
theorem Run.refines {w w' : World} {obs : List (Bytes × Json)} (h : Run w obs w')
    (hrel : w.env.Reliable) (hw : Consistent w) :
    AbsRun (session w) (obs.map fun o => (Request.parse o.1, o.2)) (session w') := by
  induction h with
  | done => exact .nil _
  | silent hs _ ih =>
    obtain ⟨henv, hc, hsame | ⟨x, hx, hx'⟩⟩ := step_refines hrel hw hs
    · exact hsame ▸ ih (henv ▸ hrel) hc
    · -- the child exited between two commands
      rw [hx]
      exact .exit (hx' ▸ ih (henv ▸ hrel) hc)
  | command hs _ ih =>
    obtain ⟨henv, hc, hstep⟩ := step_refines hrel hw hs
    exact .cons hstep (ih (henv ▸ hrel) hc)

/-- Along any run from a consistent dispatcher, under an environment where `get_version`,
`terminate` and `finalize` succeed, every command boundary is consistent. -/
theorem Run.consistent {w w' : World} {obs : List (Bytes × Json)} (h : Run w obs w')
    (hrel : w.env.Reliable) (hw : Consistent w) : Consistent w' := by
  induction h with
  | done => exact hw
  | silent hs _ ih =>
    obtain ⟨henv, hc, -⟩ := step_refines hrel hw hs
    exact ih (henv ▸ hrel) hc
  | command hs _ ih =>
    obtain ⟨henv, hc, -⟩ := step_refines hrel hw hs
    exact ih (henv ▸ hrel) hc

/-- Where `get_version`, `terminate` and `finalize` succeed, every command boundary of every run
from the start has one of two shapes: `IDLE` with no process object, no log open and every child
reaped, or `RUNNING` one session whose child has not been reaped, is the only such child, and
has its log open. No child is leaked and no second one is started. -/
theorem reliable_boundary_shapes {env : Env} (hrel : env.Reliable) {obs : List (Bytes × Json)}
    {w : World} (h : Run (World.init env) obs w) :
    (w.state = .idle ∧ w.process = none ∧ w.logOpen = false ∧ ∀ q, (w.children q).Settled) ∨
    ∃ p, w.state = .running ∧ w.process = some p ∧ w.logOpen = true ∧
      (w.children p.pid = .running ∨ w.children p.pid = .zombie) ∧
      ∀ q, q ≠ p.pid → (w.children q).Settled := by
  rcases h.consistent hrel (.inl (World.init_idle env)) with hi | ⟨p, ha⟩
  · exact .inl ⟨hi.state, hi.process, hi.logClosed, hi.settled⟩
  · exact .inr ⟨p, ha.state, ha.process, ha.logOpen, ha.live, ha.settled⟩

/-- `spin_up:wg` from the start. -/
theorem reliable_boundary_shapes_spinUp :
    Env.quiet.Reliable ∧ ∃ obs w, Run (World.init .quiet) obs w ∧ obs.length = 1 ∧
      ((w.state = .idle ∧ w.process = none ∧ w.logOpen = false ∧ ∀ q, (w.children q).Settled) ∨
      ∃ p, w.state = .running ∧ w.process = some p ∧ w.logOpen = true ∧
        (w.children p.pid = .running ∨ w.children p.pid = .zombie) ∧
        ∀ q, q ≠ p.pid → (w.children q).Settled) := by
  have hrel : Env.quiet.Reliable := ⟨fun _ => rfl, fun _ => rfl, fun _ => rfl⟩
  obtain ⟨obs, h, hobs⟩ := Run.of_allReply
    (by decide : allReply (World.init .quiet) [ascii "spin_up:wg\n"])
  exact ⟨hrel, obs, _, h, by simpa using congrArg List.length hobs,
    reliable_boundary_shapes hrel h⟩

end Wpmd
