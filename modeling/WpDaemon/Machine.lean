import WpDaemon.Hoare
import WpDaemon.CommandHandler

/-!
# The state machine inside a command

`transition_to` refuses a move off its table, and the dispatcher ignores most of its
answers. The ghost log `World.refused` holds the refused moves, so a command that leaves
the log as it found it had none of its calls refused. Every operation but `transition_to`
leaves the state and the log alone (`Neutral`). Inside a handler the state at each
`transition_to` is therefore the one its guards and its earlier moves leave.
-/

namespace Wpmd

/-- The state machine in state `s`, with the refused moves `r` logged. -/
def Machine (s : State) (r : List (State × State)) (w : World) : Prop :=
  w.state = s ∧ w.refused = r

/-- `m` leaves the state machine and the log of refused moves as they were, whatever it
returns or throws. -/
def Neutral {α : Type} (m : Cmd α) : Prop :=
  ∀ s r, Triple (Machine s r) m (fun _ => Machine s r) (fun _ => Machine s r)

/-- A move on the table is taken and logs nothing. -/
theorem transitionTo_valid {r : List (State × State)} {E : Exception → World → Prop}
    (s new : State) (h : StateMachine.isValidTransition s new = true) :
    Triple (Machine s r) (transitionTo new) (fun _ => Machine new r) E := by
  rintro w ⟨rfl, rfl⟩
  simp [StateMachine.transitionTo_of_valid h, Machine]

section Primitives

/-- Asking whether a call fails only counts the call. -/
theorem failsNow_neutral (c : Fallible) : Neutral (failsNow c) := fun _ _ => .modifyGet fun _ h => h

/-- Reading the clock only advances the tick. -/
theorem clockNow_neutral : Neutral clockNow := fun _ _ => .modifyGet fun _ h => h

/-- A sleep only moves time and the children on. -/
theorem sleepFor_neutral : Neutral sleepFor := fun _ _ => .modify fun _ h => h

/-- Changing `process_` leaves the state machine alone. -/
theorem modifyProcess_neutral (f : WireProxyProcess → WireProxyProcess) :
    Neutral (modifyProcess f) :=
  fun _ _ => .modify fun _ h => h

/-- `kill` acts on the operating system only. -/
theorem killGroup_neutral (pid : Int) (sig : Signal) : Neutral (killGroup pid sig) :=
  fun _ _ => .modify fun _ h => h

/-- A non-blocking `waitpid` acts on the children only. -/
theorem waitpidNoHang_neutral (pid : Int) : Neutral (waitpidNoHang pid) := fun _ _ w h => by
  rw [waitpidNoHang_spec]
  cases w.children pid <;> exact h

/-- A blocking `waitpid` acts on the children only. -/
theorem waitpidBlocking_neutral (pid : Int) : Neutral (waitpidBlocking pid) := fun _ _ w h => by
  rw [waitpidBlocking_spec]
  cases w.children pid <;> exact h

/-- `fork` acts on the children and the pid counter only, or fails. -/
theorem fork_neutral : Neutral fork := fun _ _ =>
  .bind (failsNow_neutral _ _ _) fun _ =>
    .ite (fun _ => .pure fun _ h => h) fun _ => .modifyGet fun _ h => h

/-- `current_config_` is not the state machine's; setting it throws nothing. -/
theorem setCurrentConfig_machine {E : Exception → World → Prop} (config : Bytes) (s : State)
    (r : List (State × State)) :
    Triple (Machine s r) (CommandHandler.setCurrentConfig config) (fun _ => Machine s r) E :=
  .modify fun _ h => h

end Primitives

section Collaborators

/-- `get_version` answers or throws and leaves the state machine alone. -/
theorem getVersion_neutral : Neutral BinaryManager.getVersion := fun _ _ =>
  .get_bind fun _ _ => .bind (failsNow_neutral _ _ _) fun _ =>
    .ite (fun _ => .throw_bind fun _ h => h) fun _ => .pure_bind (.pure fun _ h => h)

/-- `create_log` acts on the log manager and the files only, or throws. -/
theorem createLog_neutral (configName version : Bytes) :
    Neutral (LogManager.createLog configName version) := fun _ _ =>
  .get_bind fun _ h₀ => .ite_bind (.modify fun _ _ => h₀) (.pure fun _ h => h) fun _ =>
    .bind (clockNow_neutral _ _) fun _ => .bind (.modify fun _ h => h) fun _ =>
    .bind (failsNow_neutral _ _ _) fun _ =>
    .ite (fun _ => .throw_bind fun _ h => h)
      fun _ => .pure_bind (.bind (.modify fun _ h => h) fun _ => .pure fun _ h => h)

/-- `finalize` acts on the log manager and the files only, or throws. -/
theorem finalize_neutral (reason : Bytes) : Neutral (LogManager.finalize reason) := fun _ _ =>
  .get_bind fun _ _ => .ite (fun _ => .pure fun _ h => h) fun _ =>
    .pure_bind (.bind (failsNow_neutral _ _ _) fun _ =>
      .ite (fun _ => .throw_bind fun _ h => h) fun _ =>
        .pure_bind (.bind (clockNow_neutral _ _) fun _ => .modify fun _ h => h))

/-- `config_exists` answers or throws, and changes nothing. -/
theorem configExists_neutral (configName : Bytes) :
    Neutral (ConfigManager.configExists configName) :=
  fun _ _ => .get_bind fun _ _ => by
    dsimp only
    split
    exacts [.throw fun _ h => h, .pure fun _ h => h]

/-- `list_configs` answers or throws, and only counts the call. -/
theorem listConfigs_neutral : Neutral ConfigManager.listConfigs := fun _ _ =>
  .get_bind fun _ _ => .bind (failsNow_neutral _ _ _) fun _ =>
    .ite (fun _ => .throw_bind fun _ h => h) fun _ => .pure_bind (.pure fun _ h => h)

end Collaborators

namespace WireProxyProcess

/-- `spawn` acts on `process_` and the operating system only, or throws. -/
theorem spawn_neutral (configPath : Bytes) : Neutral (spawn configPath) := fun _ _ =>
  .get_bind fun _ _ => .ite (fun _ => .pure fun _ h => h) fun _ =>
  .pure_bind (.bind (modifyProcess_neutral _ _ _) fun _ =>
  .get_bind fun _ _ => .ite (fun _ => .pure fun _ h => h) fun _ =>
  .pure_bind (.bind (fork_neutral _ _) fun _ =>
  .ite (fun _ => .pure fun _ h => h) fun _ =>
  .pure_bind (.bind (modifyProcess_neutral _ _ _) fun _ =>
  .bind (failsNow_neutral _ _ _) fun _ =>
  .ite (fun _ => .get_bind fun _ _ => .throw_bind fun _ h => h)
    fun _ => .pure_bind (.bind (modifyProcess_neutral _ _ _) fun _ => .pure fun _ h => h))))

/-- `is_alive` acts on the children only. -/
theorem isAlive_neutral : Neutral isAlive := fun _ _ =>
  .get_bind fun _ _ => .ite (fun _ => .pure fun _ h => h) fun _ =>
    .pure_bind (.bind (waitpidNoHang_neutral _ _ _) fun _ => .pure fun _ h => h)

/-- The polling loop of `terminate` only sleeps and reaps. -/
theorem pollExit_neutral (pid : Int) : ∀ n, Neutral (pollExit pid n)
  | 0 => fun _ _ => .pure fun _ h => h
  | n + 1 => fun s r => .bind (sleepFor_neutral s r) fun _ => .bind (waitpidNoHang_neutral _ s r)
    fun _ => .ite (fun _ => .pure fun _ h => h) fun _ => pollExit_neutral pid n s r

/-- `SIGTERM`, the polls and `SIGKILL` only signal, sleep and reap. -/
theorem escalate_neutral (pid : Int) : Neutral (escalate pid) := fun _ _ =>
  .bind (killGroup_neutral _ _ _ _) fun _ => .bind (pollExit_neutral _ _ _ _) fun _ =>
    .ite (fun _ => .pure fun _ h => h) fun _ => .pure_bind (.bind (killGroup_neutral _ _ _ _)
      fun _ => .bind (.discard (waitpidBlocking_neutral _ _ _)) fun _ => .pure fun _ h => h)

/-- `terminate` acts on `process_` and the operating system only, or throws. -/
theorem terminate_neutral : Neutral terminate := fun _ _ =>
  .get_bind fun _ _ => .ite (fun _ => .pure fun _ h => h) fun _ =>
    .pure_bind (.bind (escalate_neutral _ _ _) fun _ => .bind (failsNow_neutral _ _ _) fun _ =>
      .ite (fun _ => .throw_bind fun _ h => h)
        fun _ => .pure_bind (.bind (modifyProcess_neutral _ _ _) fun _ => .pure fun _ h => h))

/-- The destructor of `WireProxyProcess` leaves the state machine alone. -/
theorem destroy_neutral : Neutral destroy := fun _ _ =>
  .tryCatch_abort (.bind (modifyProcess_neutral _ _ _) fun _ => .get_bind fun _ _ =>
    .ite (fun _ => .discard (terminate_neutral _ _)) fun _ => .pure fun _ h => h) fun _ _ h => h

/-- `has_network_drop` only reads. -/
theorem hasNetworkDrop_neutral : Neutral hasNetworkDrop :=
  fun _ _ => .get_bind fun _ _ => .pure fun _ h => h

end WireProxyProcess

/-- `process_.reset()` leaves the state machine alone. -/
theorem resetProcess_neutral : Neutral resetProcess := fun _ _ =>
  .bind (WireProxyProcess.destroy_neutral _ _) fun _ => .modify fun _ h => h

end Wpmd
