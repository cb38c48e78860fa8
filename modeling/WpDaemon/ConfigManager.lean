import WpDaemon.World

/-!
# Configuration names

`ConfigManager` resolves a configuration name under `<argus>/wireproxy_confs`: a name is
normalized by appending `.conf` when that suffix is absent, `config_exists` asks the file
system whether the joined path, cut at its first NUL byte, is a regular file (and throws when
`stat` fails on it), and `list_configs` lists the regular files of the directory whose
extension is `.conf`, sorted.
-/

namespace Wpmd

namespace ConfigManager

/-- `configs_dir_`: `get_argus_dir() / "wireproxy_confs"`. -/
def configsDir (env : Env) : Bytes := joinPath env.argusDir (ascii "wireproxy_confs")

/-- `ConfigManager::normalize_config_name`. -/
def normalizeConfigName (configName : Bytes) : Bytes :=
  if endsWith (ascii ".conf") configName then configName else configName ++ ascii ".conf"

/-- `ConfigManager::get_config_path`. -/
def getConfigPath (env : Env) (configName : Bytes) : Bytes :=
  joinPath (configsDir env) (normalizeConfigName configName)

/-- `filesystem_error::what()` as libstdc++ builds it for an operation on one path. -/
def filesystemError (operation message path : Bytes) : Bytes :=
  ascii "filesystem error: " ++ operation ++ ascii ": " ++ message ++ ascii " [" ++ path ++ ascii "]"

/-- `ConfigManager::config_exists`: `exists(p) && is_regular_file(p)`. Both `stat` the path
`c_str()` gives, cut at its first NUL, and `exists` throws a `filesystem_error` naming the
whole path when `stat` fails other than by finding no file. -/
def configExists (configName : Bytes) : Cmd Bool := do
  let env := (← get).env
  let path := getConfigPath env configName
  match env.statError (cString path) with
  | some message => throw (.std (filesystemError (ascii "status") message path))
  | none => return env.isRegularFile (cString path)

/-- `path::extension()` of a file name: from its last `.`, unless that dot is its first
byte or the name is `.` or `..`. -/
def extension (filename : Bytes) : Bytes :=
  if filename = ascii "." ∨ filename = ascii ".." then []
  else match findByte 46 filename.reverse with
    | none => []
    | some i => if i + 1 = filename.length then [] else filename.drop (filename.length - 1 - i)

/-- `ConfigManager::list_configs`; iterating the directory may throw. -/
def listConfigs : Cmd (List Bytes) := do
  let w ← get
  if ← failsNow .listConfigs then throw (.std (w.env.what .listConfigs))
  return ((w.env.configEntries.filter fun e => e.2 && extension e.1 == ascii ".conf").map
    (·.1)).insertionSort (· ≤ ·)

@[simp] theorem configExists_run (w : World) (configName : Bytes) :
    (configExists configName).run w =
      match w.env.statError (cString (getConfigPath w.env configName)) with
      | some message => .error (.std (filesystemError (ascii "status") message
          (getConfigPath w.env configName))) w
      | none => .ok (w.env.isRegularFile (cString (getConfigPath w.env configName))) w := by
  simp only [configExists, Cmd.run_bind, Cmd.run_get]
  split <;> rfl

/-- `config_exists` changes nothing: it answers, or throws a standard exception. -/
theorem configExists_cases (w : World) (configName : Bytes) :
    (∃ b, (configExists configName).run w = .ok b w) ∨
      ∃ what, (configExists configName).run w = .error (.std what) w := by
  rw [configExists_run]
  split
  · exact .inr ⟨_, rfl⟩
  · exact .inl ⟨_, rfl⟩

/-- A normalized name always ends in `.conf`. -/
@[simp] theorem endsWith_normalizeConfigName (configName : Bytes) :
    endsWith (ascii ".conf") (normalizeConfigName configName) = true := by
  unfold normalizeConfigName
  split <;> simp_all

end ConfigManager

end Wpmd
