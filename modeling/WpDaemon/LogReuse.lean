import WpDaemon.Refinement
import WpDaemon.Requests

/-!
# A later session reopening an earlier log

`create_log` names the log after the clock's whole seconds and the configuration's stem and
opens it with `fopen(path.c_str(), "w")`, which empties a file of that name. The file is
determined by the second and by the stem followed by `.log`, read up to its first NUL byte
(`createLog_same_file_iff`). Two sessions that start in the same second with configurations
of the same stem share one file, as do stems that differ only after a NUL, which
`config_exists` also reads only up to the NUL. The later session erases the header and the
footer of the earlier one (`log_reopened_after_finalize`).
-/

namespace Wpmd

open CommandHandler LogManager

/-- Under an argus directory without NUL, the file `create_log` opens is the logs directory, a
`/`, the second, a `_` and the stem with `.log`, cut at its first NUL. -/
theorem cString_logPath {env : Env} (h : 0 ∉ env.argusDir) (t : Int) (c : Bytes) :
    cString (joinPath (logsDir env) (logFileName t c)) =
      logsDir env ++ 47 :: (decimal t ++ 95 :: cString (configStem c ++ ascii ".log")) := by
  have hdir : 0 ∉ logsDir env := by
    rw [logsDir, joinPath, if_neg (by decide), List.mem_append, not_or]
    exact ⟨h, by decide⟩
  have hdec : 0 ∉ decimal t := fun h' => by
    rcases decimal_digits h' with h' | h' <;> exact absurd h' (by decide)
  have hu : ascii "_" = [95] := rfl
  rw [joinPath_logFileName, cString_append_of_not_mem hdir, cString_cons_of_ne (by decide)]
  simp only [logFileName, hu, List.append_assoc, List.singleton_append]
  rw [cString_append_of_not_mem hdec, List.cons_append, cString_cons_of_ne (by decide)]

/-- Two `create_log` calls of one daemon, under an argus directory without NUL, open the same
file exactly when they read the same whole second and their stems followed by `.log` agree up
to the first NUL. -/
theorem createLog_same_file_iff {w₁ w₂ w₁' w₂' : World} {c₁ c₂ v₁ v₂ path₁ path₂ : Bytes}
    (henv : w₁.env = w₂.env) (hdir : 0 ∉ w₁.env.argusDir)
    (h₁ : (createLog c₁ v₁).run w₁ = .ok path₁ w₁') (h₂ : (createLog c₂ v₂).run w₂ = .ok path₂ w₂') :
    cString path₁ = cString path₂ ↔ w₁.env.clock w₁.tick = w₂.env.clock w₂.tick ∧
      cString (configStem c₁ ++ ascii ".log") = cString (configStem c₂ ++ ascii ".log") := by
  have hsep (t : Int) : (95 : UInt8) ∉ decimal t := fun h => by
    rcases decimal_digits h with h | h <;> exact absurd h (by decide)
  rw [createLog_path h₁, createLog_path h₂, ← henv, cString_logPath hdir, cString_logPath hdir,
    List.append_cancel_left_eq, List.cons.injEq, eq_self_iff_true, true_and]
  constructor
  · intro h
    obtain ⟨hd, hs⟩ := append_cons_inj_of_not_mem (hsep _) (hsep _) h
    exact ⟨decimal_injective hd, hs⟩
  · rintro ⟨ht, hs⟩
    rw [ht, hs]

/-- `spin_up:wg.conf` NUL `a` with only `wg.conf` present: `config_exists` looks up `wg.conf`
and the session starts, logging to the file named after the stem up to its NUL. -/
example : ∃ path w', (execute (ascii "spin_up:wg.conf\x00a\n")).run (World.init Env.wgOnly) =
      .ok (spinUpReply (ascii "wg.conf\x00a.conf") 2 path) w' ∧
    cString path = ascii "/home/user/.argus/wp-server-logs/1700000000_wg.conf" :=
  by refine ⟨_, _, rfl, ?_⟩; decide

/-- With a clock that shows one second throughout, `spin_up:wg`, `spin_down:` and `spin_up:wg`
finalize a log and then open its file again with mode `"w"`: the file is left with the new
header alone. -/
theorem log_reopened_after_finalize :
    ∃ obs w, Run (World.init .quiet) obs w ∧ ∃ file t₁ t₂,
      w.trace = t₁ ++ .finalized file :: t₂ ∧ .opened file ∈ t₂ ∧ ∃ b, w.files file = [b] := by
  have hrel : Env.quiet.Reliable := ⟨fun _ => rfl, fun _ => rfl, fun _ => rfl⟩
  have hup : Request.parse (ascii "spin_up:wg\n") = .spinUp (ascii "wg") := rfl
  have hdown : Request.parse (ascii "spin_down:\n") = .spinDown := rfl
  obtain ⟨p, w₁, hrun₁, hA, -, henv₁, -, hpath₁, -, -, -⟩ :=
    handleSpinUp_starts hrel (World.init_idle Env.quiet) (ascii "wg") rfl rfl rfl rfl rfl
  obtain ⟨w₂, hrun₂, henv₂, hI, -, ⟨t, ht⟩, -⟩ := handleSpinDown_active (henv₁ ▸ hrel) hA
  have henv : w₂.env = Env.quiet := henv₂.trans henv₁
  obtain ⟨-, w₃, hrun₃, -, -, -, -, -, htr₃, hfiles₃, -⟩ := handleSpinUp_starts (henv ▸ hrel) hI
    (ascii "wg") (by rw [ConfigManager.configExists_run, henv]; rfl) (by rw [henv]; rfl)
    (by rw [henv]; rfl) (by rw [henv]; rfl) (by rw [henv]; rfl)
  have hpath : joinPath (logsDir w₂.env)
      (logFileName (w₂.env.clock w₂.tick) (ConfigManager.normalizeConfigName (ascii "wg"))) =
        w₁.currentLogPath := by
    simp [hpath₁, henv, World.init, Env.quiet]
  rw [hpath] at htr₃ hfiles₃
  refine ⟨_, w₃, .command (.execute (execute_of_spinUp hup hrun₁))
    (.command (.execute (execute_of_spinDown hdown hrun₂))
      (.command (.execute (execute_of_spinUp hup hrun₃)) (.done _))),
    cString w₁.currentLogPath, w₁.trace ++ t, [.opened (cString w₁.currentLogPath), .fork w₂.nextPid],
    by simp [htr₃, ht], List.mem_cons_self _ _, .header (w₂.env.clock w₂.tick)
      (cString (ConfigManager.normalizeConfigName (ascii "wg"))) (cString w₂.env.version),
    by simp [hfiles₃]⟩

end Wpmd
