import WpDaemon.LogManager
import WpDaemon.WireProxyProcess
import WpDaemon.ConfigManager

/-!
# The command dispatcher

`CommandHandler::execute` parses one line `CMD:ARG1,ARG2,...`, dispatches on the command
name and turns every `std::exception` a handler lets out into an error reply. The
handlers drive the state machine, the log manager and the process manager; their failure
branches and `catch` blocks are written out as the source has them, including the calls
that may themselves fail there.
-/

namespace Wpmd

/-- `BinaryManager::get_version`. -/
def BinaryManager.getVersion : Cmd Bytes := do
  let w ← get
  if ← failsNow .getVersion then throw (.std (w.env.what .getVersion))
  return w.env.version

/-- `get_version` when the environment lets it succeed. -/
theorem BinaryManager.getVersion_run (w : World)
    (h : w.env.fails .getVersion (w.calls .getVersion) = false) :
    BinaryManager.getVersion.run w = .ok w.env.version
      { w with calls := Function.update w.calls .getVersion (w.calls .getVersion + 1) } := by
  simp [BinaryManager.getVersion, h]

namespace CommandHandler

/-- The bytes `trim` removes: space and tab. -/
def isSpaceOrTab (b : UInt8) : Bool := b == 32 || b == 9

/-- `arg.erase(0, arg.find_first_not_of(" \t"))`, then
`arg.erase(arg.find_last_not_of(" \t") + 1)`. -/
def trim (arg : Bytes) : Bytes :=
  ((arg.dropWhile isSpaceOrTab).reverse.dropWhile isSpaceOrTab).reverse

/-- `while (std::getline(ss, arg, ','))`: the fields between commas, the last one only when
it has a byte. `field` holds what was read of the current field. -/
def splitFields (field : Bytes) : Bytes → List Bytes
  | [] => if field.isEmpty then [] else [field]
  | b :: s => if b = 44 then field :: splitFields [] s else splitFields (field ++ [b]) s

/-- The arguments `execute` takes from the text after the colon: without a trailing
newline, split at commas, trimmed, the empty ones dropped. -/
def parseArgs (rest : Bytes) : List Bytes :=
  if rest.isEmpty then []
  else
    let argsStr := if rest.getLast? = some newline then rest.dropLast else rest
    ((splitFields [] argsStr).map trim).filter (!·.isEmpty)

/-- `"WireProxy is already running"`, naming the configuration when there is one. -/
def alreadyRunningMessage (currentConfig : Bytes) : Bytes :=
  ascii "WireProxy is already running" ++
    if currentConfig.isEmpty then [] else ascii " with config: " ++ currentConfig

/-- The reply of a `spin_up` that started the child. -/
def spinUpReply (config : Bytes) (pid : Int) (logFile : Bytes) : Json :=
  resultReply (ascii "spin_up") (.object [(ascii "status", .text "running"),
    (ascii "config", .string config), (ascii "pid", .number pid), (ascii "log_file", .string logFile)])

/-- The reply of a `spin_down` that stopped the child. -/
def spinDownReply (prevConfig logPath : Bytes) : Json :=
  resultReply (ascii "spin_down") (.object [(ascii "status", .text "stopped"),
    (ascii "previous_config", .string prevConfig), (ascii "log_file", .string logPath)])

/-- The reply of `state` while a child runs. -/
def runningStateReply (config : Bytes) (pid : Int) (logFile : Bytes) : Json :=
  resultReply (ascii "state") (.object [(ascii "running", .boolean true),
    (ascii "config", .string config), (ascii "pid", .number pid), (ascii "log_file", .string logFile)])

/-- The reply of `state` with no child: the last log, if there was one. -/
def stoppedStateReply (logPath : Bytes) : Json :=
  resultReply (ascii "state") (.object [(ascii "running", .boolean false),
    (ascii "config", .null), (ascii "pid", .null),
    (ascii "log_file", if logPath.isEmpty then .null else .string logPath)])

/-- `current_config_.clear()`, or `current_config_ = config`. -/
def setCurrentConfig (config : Bytes) : Cmd Unit :=
  modify fun w => { w with currentConfig := config }

@[simp] theorem setCurrentConfig_run (w : World) (config : Bytes) :
    (setCurrentConfig config).run w = .ok () { w with currentConfig := config } := rfl

/-- The `try` block of `handle_spin_up`, after the move to `STARTING`. -/
def spinUpAttempt (normalized : Bytes) : Cmd Json := do
  let version ← BinaryManager.getVersion
  let logPath ← LogManager.createLog normalized version
  -- `process_ = std::make_unique<WireProxyProcess>(...)` destroys what `process_` held
  resetProcess
  modify fun w => { w with process := some .new }
  let configPath := ConfigManager.getConfigPath (← get).env normalized
  if !(← WireProxyProcess.spawn configPath) then
    LogManager.finalize (ascii "Spawn failed")
    resetProcess
    discard (transitionTo .idle)
    return errorReply (ascii "spin_up") (ascii "Failed to spawn WireProxy process")
  sleepFor
  if !(← WireProxyProcess.isAlive) then
    let failedLog := (← get).currentLogPath
    LogManager.finalize (ascii "Process died during startup")
    resetProcess
    discard (transitionTo .idle)
    setCurrentConfig []
    return errorReply (ascii "spin_up") (ascii "WireProxy failed to start. Check log: " ++ failedLog)
  setCurrentConfig normalized
  discard (transitionTo .running)
  return spinUpReply normalized (← get).proc.pid logPath

/-- The `catch` block of `handle_spin_up`. -/
def spinUpRecover (what : Bytes) : Cmd Json := do
  if (← get).logOpen then LogManager.finalize (ascii "Error during startup")
  resetProcess
  discard (transitionTo .idle)
  setCurrentConfig []
  return errorReply (ascii "spin_up") (ascii "Exception during spin_up: " ++ what)

/-- `CommandHandler::handle_spin_up`. -/
def handleSpinUp (configName : Bytes) : Cmd Json := do
  let w ← get
  if w.state ≠ .idle then
    return errorReply (ascii "spin_up") (alreadyRunningMessage w.currentConfig)
  let normalized := ConfigManager.normalizeConfigName configName
  if !(← ConfigManager.configExists normalized) then
    return errorReply (ascii "spin_up") (ascii "Configuration not found: " ++ normalized)
  if !(← transitionTo .starting) then
    return errorReply (ascii "spin_up") (ascii "Failed to transition to STARTING state")
  catchStd (spinUpAttempt normalized) spinUpRecover

/-- The `try` block of `handle_spin_down`. -/
def spinDownAttempt (prevConfig logPath : Bytes) : Cmd Json := do
  let method ← WireProxyProcess.terminate
  LogManager.finalize method
  resetProcess
  setCurrentConfig []
  discard (transitionTo .idle)
  return spinDownReply prevConfig logPath

/-- The `catch` block of `handle_spin_down`. -/
def spinDownRecover (what : Bytes) : Cmd Json := do
  resetProcess
  setCurrentConfig []
  discard (transitionTo .idle)
  return errorReply (ascii "spin_down") (ascii "Failed to stop WireProxy: " ++ what)

/-- `CommandHandler::handle_spin_down`. -/
def handleSpinDown : Cmd Json := do
  let w ← get
  if w.state ≠ .running ∨ w.process.isNone then
    return errorReply (ascii "spin_down") (ascii "WireProxy is not running")
  if !(← transitionTo .stopping) then
    return errorReply (ascii "spin_down") (ascii "Failed to transition to STOPPING state")
  catchStd (spinDownAttempt w.currentConfig w.currentLogPath) spinDownRecover

/-- `CommandHandler::check_and_cleanup_process`. -/
def checkAndCleanupProcess : Cmd Bool := do
  let w ← get
  if w.state = .running ∧ w.process.isSome then
    if !(← WireProxyProcess.isAlive) then
      let reason := if ← WireProxyProcess.hasNetworkDrop then
        ascii "Network drop detected - auto-terminated" else ascii "Process died unexpectedly"
      LogManager.finalize reason
      resetProcess
      setCurrentConfig []
      discard (transitionTo .idle)
      return false
    return true
  return false

/-- `CommandHandler::handle_state`. -/
def handleState : Cmd Json := do
  discard checkAndCleanupProcess
  let w ← get
  if w.state = .running ∧ w.process.isSome then
    return runningStateReply w.currentConfig w.proc.pid w.currentLogPath
  return stoppedStateReply w.currentLogPath

/-- `CommandHandler::handle_available_confs`. -/
def handleAvailableConfs : Cmd Json := do
  let configs ← ConfigManager.listConfigs
  return resultReply (ascii "available_confs") (.object
    [(ascii "count", .number configs.length), (ascii "configs", .array (configs.map .string))])

/-- `CommandHandler::handle_whoami`. -/
def handleWhoami : Cmd Json :=
  return resultReply (ascii "whoami") (.object
    [(ascii "version", .string (← get).env.daemonVersion), (ascii "implementation", .text "C++")])

/-- The `if`/`else if` chain of `execute` on the command name. -/
def dispatch (cmd : Bytes) (args : List Bytes) : Cmd Json :=
  if cmd = ascii "spin_up" then
    match args with
    | [] => pure (errorReply cmd (ascii "Not enough args: spin_up requires config name"))
    | configName :: _ => handleSpinUp configName
  else if cmd = ascii "spin_down" then handleSpinDown
  else if cmd = ascii "state" then handleState
  else if cmd = ascii "available_confs" then handleAvailableConfs
  else if cmd = ascii "whoami" then handleWhoami
  else pure (errorReply cmd (ascii "Unknown command: " ++ cmd))

/-- `CommandHandler::execute`, one command line under `mutex_`. -/
def execute (command : Bytes) : Cmd Json :=
  match findByte 58 command with
  | none => pure (errorReply (ascii "unknown") (ascii "Parsing error: colon not found"))
  | some colonPos =>
    let cmd := command.take colonPos
    catchStd (dispatch cmd (parseArgs (command.drop (colonPos + 1))))
      fun what => pure (errorReply cmd what)

section Guards

variable {w : World}

/-- `spin_up` outside `IDLE` answers that the proxy already runs and changes nothing. -/
theorem handleSpinUp_of_ne_idle (h : w.state ≠ .idle) (configName : Bytes) :
    (handleSpinUp configName).run w =
      .ok (errorReply (ascii "spin_up") (alreadyRunningMessage w.currentConfig)) w := by
  simp [handleSpinUp, h]

/-- `spin_up` in `IDLE` on a configuration that `config_exists` finds moves to `STARTING` and
runs its `try` block. -/
theorem handleSpinUp_of_exists (h : w.state = .idle) {configName : Bytes}
    (hex : (ConfigManager.configExists (ConfigManager.normalizeConfigName configName)).run w =
      .ok true w) :
    (handleSpinUp configName).run w =
      (catchStd (spinUpAttempt (ConfigManager.normalizeConfigName configName)) spinUpRecover).run
        { w with state := .starting } := by
  simp [handleSpinUp, h, -ConfigManager.configExists_run, hex, StateMachine.transitionTo,
    StateMachine.isValidTransition]

/-- `spin_up` in `IDLE` on a configuration that `config_exists` does not find answers so and
changes nothing. -/
theorem handleSpinUp_of_not_exists (h : w.state = .idle) {configName : Bytes}
    (hex : (ConfigManager.configExists (ConfigManager.normalizeConfigName configName)).run w =
      .ok false w) :
    (handleSpinUp configName).run w = .ok (errorReply (ascii "spin_up")
      (ascii "Configuration not found: " ++ ConfigManager.normalizeConfigName configName)) w := by
  simp [handleSpinUp, h, -ConfigManager.configExists_run, hex]

/-- `spin_up` in `IDLE` passes on what `config_exists` throws, with nothing changed. -/
theorem handleSpinUp_of_configExists_throws (h : w.state = .idle) {configName : Bytes}
    {e : Exception} {w' : World}
    (hex : (ConfigManager.configExists (ConfigManager.normalizeConfigName configName)).run w =
      .error e w') :
    (handleSpinUp configName).run w = .error e w' := by
  simp [handleSpinUp, h, -ConfigManager.configExists_run, hex]

/-- `spin_down` outside `RUNNING` answers that nothing runs and changes nothing. -/
theorem handleSpinDown_of_ne_running (h : w.state ≠ .running) :
    handleSpinDown.run w =
      .ok (errorReply (ascii "spin_down") (ascii "WireProxy is not running")) w := by
  simp [handleSpinDown, h]

/-- `state` outside `RUNNING` reports no child and changes nothing. -/
theorem handleState_of_ne_running (h : w.state ≠ .running) :
    handleState.run w = .ok (stoppedStateReply w.currentLogPath) w := by
  simp [handleState, checkAndCleanupProcess, h]

end Guards

end CommandHandler

end Wpmd
