import WpDaemon.Requests

/-!
# The configuration check against the listing

`spin_up` accepts a configuration when `config_exists` finds a regular file at
`configs_dir_ / normalized`, a path the file system resolves after the C library has cut it at
its first NUL byte. `available_confs` lists the regular entries of the directory whose
`path::extension()` is `.conf`. The two answers come from different code paths. They agree on
every name that is a plain file name of the directory, provided the path oracle and the entry
list describe one directory (`Env.Coherent`) and `stat` raises no error on the path (a name
longer than `NAME_MAX` makes `exists` throw). That excludes names with a NUL, which
`config_exists` looks up without what follows it, names with a `/`, which it follows into
subdirectories or out of the directory, and the dot-file `.conf`, whose extension is empty:
`spin_up:.conf` starts a session on a file that `available_confs` does not list
(`spinUp_accepts_unlisted`).
-/

namespace Wpmd

open CommandHandler ConfigManager

/-- The path oracle of `config_exists` and the entries of `list_configs` describe one
directory: a name without `/` or NUL is a regular file under `configs_dir_` exactly when the
directory iterator gives it as a regular entry. -/
def Env.Coherent (env : Env) : Prop :=
  ∀ name : Bytes, name ≠ [] → 47 ∉ name → 0 ∉ name →
    (env.isRegularFile (joinPath (configsDir env) name) = true ↔ (name, true) ∈ env.configEntries)

/-- A name that does not start with `/` is joined under the directory, so two such names
give the same path only if they are equal. -/
theorem joinPath_inj {dir a b : Bytes} (ha : a ≠ []) (ha' : 47 ∉ a) (hb : b ≠ [])
    (hb' : 47 ∉ b) : joinPath dir a = joinPath dir b ↔ a = b := by
  have hhead : ∀ {x : Bytes}, x ≠ [] → 47 ∉ x → x.head? ≠ some 47 := fun hx hx' h =>
    hx' (List.mem_of_mem_head? h)
  simp [joinPath, hhead ha ha', hhead hb hb']

/-- A directory holding one regular file `f` and nothing else. -/
theorem Env.coherent_single {env : Env} {f : Bytes} (hf : f ≠ []) (hf' : 47 ∉ f)
    (hfile : ∀ p, env.isRegularFile p = (p == joinPath (configsDir env) f))
    (hentries : env.configEntries = [(f, true)]) : env.Coherent := fun name hn hn' _ => by
  simp [hfile, hentries, joinPath_inj hn hn' hf hf']

namespace ConfigManager

end ConfigManager

/-- The configuration directory with the one regular file `.conf`, a dot-file. -/
def Env.dotConf : Env := { Env.quiet with
  isRegularFile := fun path => path == joinPath (configsDir Env.quiet) (ascii ".conf")
  configEntries := [(ascii ".conf", true)] }

/-- In a directory whose only file is the regular dot-file `.conf`, `list_configs` lists
nothing, since the extension of `.conf` is empty, while `spin_up:.conf` from the start state
finds the file and starts child `2` on it. -/
theorem spinUp_accepts_unlisted :
    Env.dotConf.Coherent ∧
      (∃ w₁, listConfigs.run (World.init Env.dotConf) = .ok [] w₁) ∧
      ∃ path w', (execute (ascii "spin_up:.conf\n")).run (World.init Env.dotConf) =
        .ok (spinUpReply (ascii ".conf") 2 path) w' :=
  ⟨Env.coherent_single (by decide) (by decide) (fun _ => rfl) rfl, ⟨_, rfl⟩, _, _, rfl⟩

end Wpmd
