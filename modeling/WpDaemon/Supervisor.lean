import WpDaemon.CommandHandler

/-!
# Runs of the supervisor

The dispatcher's mutex serializes commands, so a run is a sequence of steps between
command boundaries: a command line executed to its end, a child exiting, or the current
monitor thread reaching its threshold. Failures, the clock and child exits inside a
command come from the world's `Env`; a step whose command ends the process by
`std::terminate` has no successor.
-/

namespace Wpmd

/-- The world `run_daemon_mode` builds: state `IDLE`, no process, no log, no child. -/
def World.init (env : Env) : World where
  env := env
  calls := fun _ => 0
  tick := 0
  state := .idle
  process := none
  currentConfig := []
  currentLogPath := []
  logOpen := false
  nextPid := 2
  children := fun _ => .unused
  files := fun _ => []
  trace := []
  refused := []

/-- An environment for concrete runs: nothing fails, the clock shows one second, no child
exits on its own, every configuration file exists and `stat` never fails. -/
def Env.quiet : Env where
  fails := fun _ _ => false
  what := fun _ => []
  clock := fun _ => 1700000000
  exits := fun _ _ => false
  argusDir := ascii "/home/user/.argus"
  isRegularFile := fun _ => true
  statError := fun _ => none
  configEntries := []
  version := ascii "1.0.3"
  daemonVersion := ascii "1.0.0"

/-- One step between two command boundaries, with the line and reply of a command. -/
inductive Step : World → Option (Bytes × Json) → World → Prop
  | execute {w w' : World} {line : Bytes} {r : Json} :
      (CommandHandler.execute line).run w = .ok r w' → Step w (some (line, r)) w'
  | childExits {w : World} (pid : Int) :
      w.children pid = .running → Step w none (w.childExit pid)
  | monitorTrips {w w' : World} :
      w.proc.monitor = .running → w.proc.stopMonitoring = false →
        WireProxyProcess.monitorTrips.run w = .ok () w' → Step w none w'

/-- The worlds some run reaches at a command boundary, from any environment. -/
inductive Reachable : World → Prop
  | init (env : Env) : Reachable (World.init env)
  | step {w w' : World} {o : Option (Bytes × Json)} : Reachable w → Step w o w' → Reachable w'

/-- A run from `w` to `w'` with the lines and replies of its commands, in order. -/
inductive Run : World → List (Bytes × Json) → World → Prop
  | done (w : World) : Run w [] w
  | silent {w w' w'' : World} {obs : List (Bytes × Json)} :
      Step w none w' → Run w' obs w'' → Run w obs w''
  | command {w w' w'' : World} {o : Bytes × Json} {obs : List (Bytes × Json)} :
      Step w (some o) w' → Run w' obs w'' → Run w (o :: obs) w''

/-- The world a command line leaves, whether `execute` replies or the process ends in it. -/
def afterLine (w : World) (line : Bytes) : World :=
  match (CommandHandler.execute line).run w with
  | .ok _ w' => w'
  | .error _ w' => w'

/-- Whether each of the command lines, run in turn, gets a reply. -/
def allReply (w : World) : List Bytes → Bool
  | [] => true
  | line :: rest =>
    (match (CommandHandler.execute line).run w with | .ok _ _ => true | .error _ _ => false) &&
      allReply (afterLine w line) rest

/-- Command lines that all get a reply are the commands of a run, which ends in the world the
last of them leaves. -/
theorem Run.of_allReply {w : World} {lines : List Bytes} (h : allReply w lines = true) :
    ∃ obs, Run w obs (lines.foldl afterLine w) ∧ obs.map Prod.fst = lines := by
  induction lines generalizing w with
  | nil => exact ⟨[], .done w, rfl⟩
  | cons line rest ih =>
    simp only [allReply, Bool.and_eq_true] at h
    obtain ⟨obs, hrun, hobs⟩ := ih h.2
    cases hr : (CommandHandler.execute line).run w with
    | ok r w' =>
      have hw' : afterLine w line = w' := by simp [afterLine, hr]
      rw [hw'] at hrun
      exact ⟨(line, r) :: obs, by simpa [hw'] using Run.command (.execute hr) hrun, by simp [hobs]⟩
    | error e w' => simp [hr] at h

end Wpmd
