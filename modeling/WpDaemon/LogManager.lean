import WpDaemon.World

/-!
# The session log

`LogManager` owns one log file at a time. `create_log` names it after the clock's whole
seconds and the configuration's stem, opens it with `fopen(path.c_str(), "w")` (which empties
a file of that name; the C library reads the path up to its first NUL byte) and writes the
header, whose `%s` fields are cut the same way; `finalize` writes the teardown footer and
closes it. A log still open when `create_log` runs is closed without a footer.
-/

namespace Wpmd

namespace LogManager

/-- `logs_dir_`: `get_argus_dir() / "wp-server-logs"`. -/
def logsDir (env : Env) : Bytes := joinPath env.argusDir (ascii "wp-server-logs")

/-- `config_clean`: the configuration name without a trailing `.conf`. -/
def configStem (configName : Bytes) : Bytes :=
  if endsWith (ascii ".conf") configName then configName.take (configName.length - 5)
  else configName

/-- `<timestamp>_<config_clean>.log`. -/
def logFileName (timestamp : Int) (configName : Bytes) : Bytes :=
  decimal timestamp ++ ascii "_" ++ configStem configName ++ ascii ".log"

/-- `LogManager::create_log`: the path of the new log. -/
def createLog (configName version : Bytes) : Cmd Bytes := do
  let w ← get
  if w.logOpen then
    set { w with logOpen := false, trace := w.trace ++ [OsEvent.abandoned (cString w.currentLogPath)] }
  let timestamp ← clockNow
  let path := joinPath (logsDir w.env) (logFileName timestamp configName)
  modify fun w => { w with currentLogPath := path }
  if ← failsNow .createLog then
    throw (.std (ascii "Failed to create log file: " ++ path))
  modify fun w => { w with
    logOpen := true
    files := Function.update w.files (cString path)
      [.header timestamp (cString configName) (cString version)]
    trace := w.trace ++ [.opened (cString path)] }
  return path

/-- `LogManager::finalize`: the footer and `fclose`, or nothing when no log is open. -/
def finalize (reason : Bytes) : Cmd Unit := do
  let w ← get
  if !w.logOpen then return
  if ← failsNow .finalize then throw (.std (w.env.what .finalize))
  let timestamp ← clockNow
  modify fun w => { w with
    logOpen := false
    files := Function.update w.files (cString w.currentLogPath)
      (w.files (cString w.currentLogPath) ++ [.footer timestamp reason])
    trace := w.trace ++ [.finalized (cString w.currentLogPath)] }

section Runs

variable (w : World) (configName version reason : Bytes)

/-- `create_log` with no log open: the clock names the file, and the file is created unless
`fopen` fails. -/
theorem createLog_run (h : w.logOpen = false) :
    (createLog configName version).run w =
      let path := joinPath (logsDir w.env) (logFileName (w.env.clock w.tick) configName)
      if w.env.fails .createLog (w.calls .createLog) then
        .error (.std (ascii "Failed to create log file: " ++ path)) { w with
          tick := w.tick + 1, currentLogPath := path
          calls := Function.update w.calls .createLog (w.calls .createLog + 1) }
      else .ok path { w with
        tick := w.tick + 1, currentLogPath := path
        calls := Function.update w.calls .createLog (w.calls .createLog + 1)
        logOpen := true
        files := Function.update w.files (cString path)
          [.header (w.env.clock w.tick) (cString configName) (cString version)]
        trace := w.trace ++ [.opened (cString path)] } := by
  simp only [createLog, Cmd.run_bind, Cmd.run_get, h, Bool.false_eq_true, if_false, Cmd.run_pure,
    clockNow_run, Cmd.run_modify, failsNow_run]
  split <;> rfl

/-- `finalize` with no log open does nothing. -/
theorem finalize_of_closed (h : w.logOpen = false) : (finalize reason).run w = .ok () w := by
  simp [finalize, h]

/-- `finalize` of the open log appends the footer at the clock's time and closes the file,
unless writing it throws. -/
theorem finalize_run (h : w.logOpen = true) :
    (finalize reason).run w =
      if w.env.fails .finalize (w.calls .finalize) then
        .error (.std (w.env.what .finalize))
          { w with calls := Function.update w.calls .finalize (w.calls .finalize + 1) }
      else .ok () { w with
        calls := Function.update w.calls .finalize (w.calls .finalize + 1)
        tick := w.tick + 1
        logOpen := false
        files := Function.update w.files (cString w.currentLogPath)
          (w.files (cString w.currentLogPath) ++ [.footer (w.env.clock w.tick) reason])
        trace := w.trace ++ [.finalized (cString w.currentLogPath)] } := by
  simp only [finalize, Cmd.run_bind, Cmd.run_get, h, Bool.not_true, Bool.false_eq_true, if_false,
    Cmd.run_pure, failsNow_run]
  split <;> rfl

end Runs

section Names

/-- A file name starts with its timestamp, never with `/`, so the log's path is the logs
directory, a `/` and the name. -/
theorem joinPath_logFileName (dir : Bytes) (t : Int) (c : Bytes) :
    joinPath dir (logFileName t c) = dir ++ 47 :: logFileName t c := by
  have hhead : (logFileName t c).head? ≠ some 47 := by
    cases hd : decimal t with
    | nil => simp [logFileName, hd, ascii]; decide
    | cons b s =>
      have hb := decimal_digits (hd ▸ List.mem_cons_self b s)
      simp only [logFileName, hd, List.cons_append, List.head?_cons, ne_eq, Option.some.injEq]
      rintro rfl
      revert hb; decide
  simp [joinPath, hhead]

/-- `create_log` names its file after the second the clock shows when it starts, whether or
not a log was still open. -/
theorem createLog_path {w w' : World} {configName version path : Bytes}
    (h : (createLog configName version).run w = .ok path w') :
    path = joinPath (logsDir w.env) (logFileName (w.env.clock w.tick) configName) := by
  cases hl : w.logOpen <;> simp [createLog, hl] at h <;> split at h <;> simp_all

end Names

end LogManager

end Wpmd
