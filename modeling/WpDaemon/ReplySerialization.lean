import Mathlib.Data.List.DropRight
import WpDaemon.Utf8
import WpDaemon.TcpServer
import WpDaemon.Refinement

/-!
# Every reply to a UTF-8 line serializes

`dump()` throws on a string that is not UTF-8, and `process_client` lets that reach
`std::terminate`. The strings a reply carries come from the command line (the command name and
the configuration name), from the environment (exception messages, the argus directory, the
daemon's version, the names in the configuration directory) and from what the dispatcher keeps
(`current_config_` and the log's path, themselves made of the others). When the environment's
texts are UTF-8, the dispatcher's are, and the line is, every reply serializes.

`KeepsUtf8 m post` is a Hoare triple over `Cmd` for this one invariant: from a world whose texts
are UTF-8, `m` leaves one whose texts are UTF-8, and returns a value satisfying `post` or throws
a standard exception whose message is UTF-8. Each function of the dispatcher gets one such
lemma, built from its callees' by the rules of the triple, as its body calls them.
-/

namespace Wpmd

open CommandHandler

/-- The texts the environment hands the daemon are UTF-8: every exception message (those of the
failing calls and the `strerror` texts of `stat`), the argus directory, the daemon's version,
and the name of every configuration file `list_configs` lists. -/
structure Env.Utf8 (env : Env) : Prop where
  what : ∀ c, utf8Valid (env.what c) = true
  statError : ∀ path message, env.statError path = some message → utf8Valid message = true
  argusDir : utf8Valid env.argusDir = true
  daemonVersion : utf8Valid env.daemonVersion = true
  configNames : ∀ name, (name, true) ∈ env.configEntries →
    ConfigManager.extension name = ascii ".conf" → utf8Valid name = true

/-- The texts a world holds for its replies are UTF-8: its environment's, `current_config_`
and the log's path. -/
structure World.Utf8 (w : World) : Prop where
  env : w.env.Utf8
  currentConfig : utf8Valid w.currentConfig = true
  currentLogPath : utf8Valid w.currentLogPath = true

/-- The daemon starts with the environment's texts and no configuration or log. -/
theorem World.init_utf8 {env : Env} (h : env.Utf8) : (World.init env).Utf8 := ⟨h, rfl, rfl⟩

/-- The texts of the environment for concrete runs are ASCII. -/
theorem Env.quiet_utf8 : Env.quiet.Utf8 :=
  ⟨fun _ => rfl, fun _ _ h => Option.noConfusion h, by decide, by decide,
    fun _ h => absurd h (List.not_mem_nil _)⟩

section Parsing

/-- A string cut at the first occurrence of an ASCII byte leaves two UTF-8 pieces. -/
theorem utf8Valid_split {s : Bytes} {b : UInt8} {i : Nat} (hb : b ≤ 0x7F)
    (h : findByte b s = some i) (hs : utf8Valid s = true) :
    utf8Valid (s.take i) = true ∧ utf8Valid (s.drop (i + 1)) = true := by
  obtain ⟨hi, hget⟩ := List.getElem?_eq_some_iff.mp (findByte_eq_some h).1
  rw [← List.take_append_drop i s, List.drop_eq_getElem_cons hi, hget,
    utf8Valid_append_ascii hb] at hs
  simpa using hs

/-- Dropping an ASCII tail keeps a string UTF-8. -/
theorem utf8Valid_of_append_ascii {x t : Bytes} (ht : ∀ b ∈ t, b ≤ 0x7F)
    (h : utf8Valid (x ++ t) = true) : utf8Valid x = true := by
  cases t with
  | nil => simpa using h
  | cons b t =>
    rw [utf8Valid_append_ascii (ht b (List.mem_cons_self b t))] at h
    exact (Bool.and_eq_true _ _ ▸ h).1

/-- Spaces and tabs are ASCII. -/
theorem isSpaceOrTab_ascii {b : UInt8} (h : isSpaceOrTab b = true) : b ≤ 0x7F := by
  simp only [isSpaceOrTab, Bool.or_eq_true, beq_iff_eq] at h
  rcases h with rfl | rfl <;> decide

/-- `trim` removes only spaces and tabs, so it keeps a string UTF-8. -/
theorem utf8Valid_trim {arg : Bytes} (h : utf8Valid arg = true) : utf8Valid (trim arg) = true := by
  have hfront : utf8Valid (arg.dropWhile isSpaceOrTab) = true := by
    induction arg with
    | nil => rfl
    | cons b s ih =>
      rw [List.dropWhile_cons]
      split
      · rename_i hb
        exact ih (by rwa [utf8Valid_cons_ascii (isSpaceOrTab_ascii hb)] at h)
      · exact h
  show utf8Valid ((arg.dropWhile isSpaceOrTab).rdropWhile isSpaceOrTab) = true
  generalize arg.dropWhile isSpaceOrTab = s at hfront
  induction s using List.reverseRecOn with
  | nil => rfl
  | append_singleton s b ih =>
    rw [List.rdropWhile_concat]
    split
    · rename_i hb
      exact ih (utf8Valid_of_append_ascii (by simpa using isSpaceOrTab_ascii hb) hfront)
    · exact hfront

/-- The fields between commas of a UTF-8 string are UTF-8. -/
theorem utf8Valid_splitFields {field s : Bytes} (h : utf8Valid (field ++ s) = true) :
    ∀ f ∈ splitFields field s, utf8Valid f = true := by
  induction s generalizing field with
  | nil => simpa [splitFields] using fun _ => h
  | cons b s ih =>
    unfold splitFields
    split
    · rename_i hb
      subst hb
      rw [utf8Valid_append_ascii (by decide)] at h
      obtain ⟨hf, hs⟩ := Bool.and_eq_true _ _ ▸ h
      simpa [hf] using @ih [] hs
    · exact ih (by simpa using h)

/-- The arguments `execute` takes from a UTF-8 string are UTF-8. -/
theorem utf8Valid_parseArgs {rest : Bytes} (h : utf8Valid rest = true) :
    ∀ a ∈ parseArgs rest, utf8Valid a = true := by
  have hargs : utf8Valid (if rest.getLast? = some newline then rest.dropLast else rest) = true := by
    split
    · rename_i hl
      exact utf8Valid_of_append_ascii (by simp [newline] : ∀ b ∈ [newline], b ≤ 0x7F)
        (by rwa [List.dropLast_append_getLast? _ hl])
    · exact h
  intro a ha
  unfold parseArgs at ha
  split at ha
  · simp at ha
  · simp only [List.mem_filter, List.mem_map] at ha
    obtain ⟨⟨f, hf, rfl⟩, -⟩ := ha
    exact utf8Valid_trim (utf8Valid_splitFields hargs f hf)

/-- The line `parse_command` takes from a UTF-8 read is UTF-8: it ends at a newline. -/
theorem utf8Valid_parseCommand {data : Bytes} (h : utf8Valid data = true) :
    utf8Valid (TCPServer.parseCommand data).1 = true := by
  unfold TCPServer.parseCommand
  split
  · rfl
  · rename_i pos hpos
    rw [List.take_succ, (findByte_eq_some hpos).1]
    exact utf8Valid_append (utf8Valid_split (by decide) hpos h).1 (by decide)

end Parsing

/-- From a world whose texts are UTF-8, `m` leaves one whose texts are UTF-8, and returns a
value satisfying `post` or throws a standard exception with a UTF-8 message. An exception that
reaches `std::terminate` ends the daemon, and nothing is asked of it. -/
def KeepsUtf8 {α : Type} (m : Cmd α) (post : α → Prop) : Prop :=
  ∀ w, w.Utf8 → match m.run w with
    | .ok a w' => w'.Utf8 ∧ post a
    | .error (.std what) w' => w'.Utf8 ∧ utf8Valid what = true
    | .error .abort _ => True

namespace KeepsUtf8

variable {α β : Type} {m : Cmd α} {p : α → Prop}

/-- `pure` keeps the world and returns its value. -/
theorem pure {a : α} (h : p a) : KeepsUtf8 (pure a) p := fun _ hw => ⟨hw, h⟩

/-- A sequence keeps the invariant when each part does, the second from what the first returns. -/
theorem bind {f : α → Cmd β} {q : β → Prop} (hm : KeepsUtf8 m p)
    (hf : ∀ a, p a → KeepsUtf8 (f a) q) : KeepsUtf8 (m >>= f) q := by
  intro w hw
  have hr := hm w hw
  rw [Cmd.run_bind]
  rcases h : m.run w with ⟨a, w'⟩ | ⟨_ | _, w'⟩ <;> rw [h] at hr
  · exact hf a hr.2 w' hr.1
  · exact hr
  · trivial

/-- An `if` keeps the invariant when both branches do. -/
theorem ite {c : Prop} [Decidable c] {t e : Cmd α} (ht : KeepsUtf8 t p) (he : KeepsUtf8 e p) :
    KeepsUtf8 (if c then t else e) p := by
  split <;> assumption

/-- `discard` keeps what its computation keeps. -/
theorem discard (hm : KeepsUtf8 m p) : KeepsUtf8 (discard m) fun _ => True := by
  intro w hw
  have hr := hm w hw
  rw [Cmd.run_discard]
  rcases h : m.run w with ⟨a, w'⟩ | ⟨_ | _, w'⟩ <;> rw [h] at hr
  · exact ⟨hr.1, trivial⟩
  · exact hr
  · trivial

/-- A `catch` block runs with a UTF-8 message, since the body throws only such. -/
theorem catchStd {handler : Bytes → Cmd α} (hm : KeepsUtf8 m p)
    (hh : ∀ what, utf8Valid what = true → KeepsUtf8 (handler what) p) :
    KeepsUtf8 (catchStd m handler) p := by
  intro w hw
  have hr := hm w hw
  rw [Cmd.run_catchStd]
  rcases h : m.run w with ⟨a, w'⟩ | ⟨_ | _, w'⟩ <;> rw [h] at hr
  · exact hr
  · exact hh _ hr.2 w' hr.1
  · trivial

/-- A destructor's `catch`-all that ends the process. -/
theorem tryCatch_abort (hm : KeepsUtf8 m p) :
    KeepsUtf8 (tryCatch m fun _ => throw .abort) p := by
  intro w hw
  have hr := hm w hw
  rw [Cmd.run_tryCatch]
  rcases h : m.run w with ⟨a, w'⟩ | ⟨_ | _, w'⟩ <;> rw [h] at hr
  · exact hr
  all_goals trivial

/-- `get` returns a world whose texts are UTF-8. -/
theorem get : KeepsUtf8 get World.Utf8 := fun _ hw => ⟨hw, hw⟩

/-- `modify` keeps the invariant when its function does. -/
theorem modify {f : World → World} (h : ∀ w, w.Utf8 → (f w).Utf8) :
    KeepsUtf8 (modify f) fun _ => True :=
  fun w hw => ⟨h w hw, trivial⟩

/-- `modifyGet` keeps the invariant when its function does. -/
theorem modifyGet {f : World → α × World} (h : ∀ w, w.Utf8 → (f w).2.Utf8) :
    KeepsUtf8 (modifyGet f) fun _ => True :=
  fun w hw => ⟨h w hw, trivial⟩

/-- A standard exception with a UTF-8 message keeps the invariant. -/
theorem throw_std {what : Bytes} (h : utf8Valid what = true) : KeepsUtf8 (throw (.std what)) p :=
  fun _ hw => ⟨hw, h⟩

/-- `set` keeps the invariant when the new world has UTF-8 texts. -/
theorem set {w : World} (h : w.Utf8) : KeepsUtf8 (set w) fun _ => True := fun _ _ => ⟨h, trivial⟩

/-- The jump of a `do` block's `if` without `else` into what follows it. -/
theorem pure_bind {a : α} {f : α → Cmd β} {q : β → Prop} (h : KeepsUtf8 (f a) q) :
    KeepsUtf8 (Pure.pure a >>= f) q := h

/-- A `throw` in a `do` block's `if`, which never reaches what follows it. -/
theorem throw_std_bind {what : Bytes} {f : α → Cmd β} {q : β → Prop} (h : utf8Valid what = true) :
    KeepsUtf8 (throw (.std what) >>= f) q :=
  fun _ hw => ⟨hw, h⟩

/-- Both branches of a `do` block's `if` running on into what follows it. -/
theorem ite_bind {c : Prop} [Decidable c] {t e : Cmd α} {f : α → Cmd β} {q : β → Prop}
    (ht : KeepsUtf8 t p) (he : KeepsUtf8 e p) (hf : ∀ a, p a → KeepsUtf8 (f a) q) :
    KeepsUtf8 (if c then t >>= f else e >>= f) q :=
  .ite (ht.bind hf) (he.bind hf)

end KeepsUtf8

/-! The operations below touch only the counters, the clock, the state, `process_` and the
operating system, or set `current_config_` to a UTF-8 name. -/

section Primitives

/-- Asking whether a call fails only counts it. -/
theorem failsNow_keepsUtf8 (c : Fallible) : KeepsUtf8 (failsNow c) fun _ => True :=
  .modifyGet fun _ hw => ⟨hw.1, hw.2, hw.3⟩

/-- Reading the clock only advances the tick. -/
theorem clockNow_keepsUtf8 : KeepsUtf8 clockNow fun _ => True :=
  .modifyGet fun _ hw => ⟨hw.1, hw.2, hw.3⟩

/-- `transition_to` touches only the state machine. -/
theorem transitionTo_keepsUtf8 (new : State) : KeepsUtf8 (transitionTo new) fun _ => True :=
  .modifyGet fun _ hw => ⟨hw.1, hw.2, hw.3⟩

/-- A sleep touches only the tick and the children. -/
theorem sleepFor_keepsUtf8 : KeepsUtf8 sleepFor fun _ => True :=
  .modify fun _ hw => ⟨hw.1, hw.2, hw.3⟩

/-- Changing `process_` touches no text. -/
theorem modifyProcess_keepsUtf8 (f : WireProxyProcess → WireProxyProcess) :
    KeepsUtf8 (modifyProcess f) fun _ => True :=
  .modify fun _ hw => ⟨hw.1, hw.2, hw.3⟩

/-- `kill` touches only the operating system. -/
theorem killGroup_keepsUtf8 (pid : Int) (sig : Signal) : KeepsUtf8 (killGroup pid sig) fun _ => True :=
  .modify fun _ hw => ⟨hw.1, hw.2, hw.3⟩

/-- A non-blocking `waitpid` touches only the children. -/
theorem waitpidNoHang_keepsUtf8 (pid : Int) : KeepsUtf8 (waitpidNoHang pid) fun _ => True := by
  intro w hw
  rw [waitpidNoHang_spec]
  cases w.children pid <;> exact ⟨⟨hw.1, hw.2, hw.3⟩, trivial⟩

/-- A blocking `waitpid` touches only the children. -/
theorem waitpidBlocking_keepsUtf8 (pid : Int) : KeepsUtf8 (waitpidBlocking pid) fun _ => True := by
  intro w hw
  rw [waitpidBlocking_spec]
  cases w.children pid <;> exact ⟨⟨hw.1, hw.2, hw.3⟩, trivial⟩

/-- `fork` touches only the children and the pid counter. -/
theorem fork_keepsUtf8 : KeepsUtf8 fork fun _ => True :=
  .bind (failsNow_keepsUtf8 _) fun _ _ =>
    .ite (.pure trivial) (.modifyGet fun _ hw => ⟨hw.1, hw.2, hw.3⟩)

/-- Setting `current_config_` to a UTF-8 name keeps the invariant. -/
theorem setCurrentConfig_keepsUtf8 {config : Bytes} (h : utf8Valid config = true) :
    KeepsUtf8 (setCurrentConfig config) fun _ => True :=
  .modify fun _ hw => ⟨hw.1, h, hw.3⟩

end Primitives

section Names

/-- Joining UTF-8 paths with `/` gives a UTF-8 path. -/
theorem utf8Valid_joinPath {dir name : Bytes} (hd : utf8Valid dir = true)
    (hn : utf8Valid name = true) : utf8Valid (joinPath dir name) = true := by
  unfold joinPath
  split
  · exact hn
  · simp [utf8Valid_append_ascii (by decide : (47 : UInt8) ≤ 0x7F), hd, hn]

/-- Normalizing a UTF-8 name keeps it UTF-8. -/
theorem utf8Valid_normalizeConfigName {name : Bytes} (h : utf8Valid name = true) :
    utf8Valid (ConfigManager.normalizeConfigName name) = true := by
  unfold ConfigManager.normalizeConfigName
  split
  · exact h
  · exact utf8Valid_append h (by decide)

/-- The stem of a UTF-8 name is UTF-8: `.conf` is cut off whole. -/
theorem utf8Valid_configStem {name : Bytes} (h : utf8Valid name = true) :
    utf8Valid (LogManager.configStem name) = true := by
  unfold LogManager.configStem
  split
  · rename_i hend
    exact utf8Valid_of_append_ascii (by decide : ∀ b ∈ ascii ".conf", b ≤ 0x7F)
      (by rwa [show name.length - 5 = name.length - (ascii ".conf").length from rfl,
        take_append_of_endsWith hend])
  · exact h

/-- A configuration's path is UTF-8 when the argus directory and the name are. -/
theorem utf8Valid_getConfigPath {env : Env} {configName : Bytes} (henv : env.Utf8)
    (h : utf8Valid configName = true) :
    utf8Valid (ConfigManager.getConfigPath env configName) = true :=
  utf8Valid_joinPath (utf8Valid_joinPath henv.argusDir (by decide)) (utf8Valid_normalizeConfigName h)

/-- A `filesystem_error`'s text is UTF-8 when what it names is. -/
theorem utf8Valid_filesystemError {operation message path : Bytes}
    (ho : utf8Valid operation = true) (hm : utf8Valid message = true) (hp : utf8Valid path = true) :
    utf8Valid (ConfigManager.filesystemError operation message path) = true :=
  utf8Valid_append (utf8Valid_append (utf8Valid_append (utf8Valid_append (utf8Valid_append
    (utf8Valid_append (by decide) ho) (by decide)) hm) (by decide)) hp) (by decide)

/-- A log's path is UTF-8 when the argus directory and the configuration name are. -/
theorem utf8Valid_logPath {env : Env} {configName : Bytes} (henv : env.Utf8)
    (h : utf8Valid configName = true) (timestamp : Int) :
    utf8Valid (joinPath (LogManager.logsDir env) (LogManager.logFileName timestamp configName)) =
      true :=
  utf8Valid_joinPath (utf8Valid_joinPath henv.argusDir (by decide))
    (utf8Valid_append (utf8Valid_append (utf8Valid_append (utf8Valid_decimal timestamp)
      (by decide)) (utf8Valid_configStem h)) (by decide))

end Names

/-- `get_version` returns or throws the environment's texts. -/
theorem BinaryManager.getVersion_keepsUtf8 : KeepsUtf8 BinaryManager.getVersion fun _ => True :=
  .bind .get fun _ hw => .bind (failsNow_keepsUtf8 _) fun _ _ =>
    .ite (.throw_std_bind (hw.env.what _)) (.pure_bind (.pure trivial))

namespace LogManager

/-- `create_log` keeps the texts UTF-8 and returns a UTF-8 path, since it names the log after
the configuration. -/
theorem createLog_keepsUtf8 {configName : Bytes} (h : utf8Valid configName = true)
    (version : Bytes) : KeepsUtf8 (createLog configName version) fun path => utf8Valid path = true :=
  .bind .get fun _ hw => .ite_bind (.set ⟨hw.1, hw.2, hw.3⟩) (.pure trivial) fun _ _ =>
    .bind clockNow_keepsUtf8 fun t _ =>
    .bind (.modify fun _ hw' => ⟨hw'.1, hw'.2, utf8Valid_logPath hw.env h t⟩) fun _ _ =>
    .bind (failsNow_keepsUtf8 _) fun _ _ =>
    .ite (.throw_std_bind (utf8Valid_append (by decide) (utf8Valid_logPath hw.env h t)))
      (.pure_bind (.bind (.modify fun _ hw' => ⟨hw'.1, hw'.2, hw'.3⟩) fun _ _ =>
        .pure (utf8Valid_logPath hw.env h t)))

/-- `finalize` writes blocks, not texts the replies carry, or throws the environment's message. -/
theorem finalize_keepsUtf8 (reason : Bytes) : KeepsUtf8 (finalize reason) fun _ => True :=
  .bind .get fun _ hw => .ite (.pure trivial) (.pure_bind (.bind (failsNow_keepsUtf8 _) fun _ _ =>
    .ite (.throw_std_bind (hw.env.what _)) (.pure_bind (.bind clockNow_keepsUtf8 fun _ _ =>
      .modify fun _ hw' => ⟨hw'.1, hw'.2, hw'.3⟩))))

end LogManager

namespace ConfigManager

/-- `config_exists` answers, or throws a `filesystem_error` that names the configuration's
path, UTF-8 when the name is. -/
theorem configExists_keepsUtf8 {configName : Bytes} (h : utf8Valid configName = true) :
    KeepsUtf8 (configExists configName) fun _ => True :=
  .bind .get fun _ hw => by
    dsimp only
    split
    · exact .throw_std (utf8Valid_filesystemError (by decide) (hw.env.statError _ _ ‹_›)
        (utf8Valid_getConfigPath hw.env h))
    · exact .pure trivial

/-- `list_configs` lists UTF-8 names. -/
theorem listConfigs_keepsUtf8 : KeepsUtf8 listConfigs fun names => ∀ n ∈ names, utf8Valid n = true :=
  .bind .get fun _ hw => .bind (failsNow_keepsUtf8 _) fun _ _ =>
    .ite (.throw_std_bind (hw.env.what _)) (.pure_bind (.pure fun n hn => by
      obtain ⟨⟨name, file⟩, he, rfl⟩ := List.mem_map.mp ((List.mem_insertionSort _).mp hn)
      simp only [List.mem_filter, Bool.and_eq_true, beq_iff_eq] at he
      obtain ⟨hmem, rfl, hext⟩ := he
      exact hw.env.configNames name hmem hext))

end ConfigManager

namespace WireProxyProcess

/-- `spawn` touches `process_` and the children, or throws the environment's message. -/
theorem spawn_keepsUtf8 (configPath : Bytes) : KeepsUtf8 (spawn configPath) fun _ => True :=
  .bind .get fun _ _ => .ite (.pure trivial) (.pure_bind (.bind (modifyProcess_keepsUtf8 _) fun _ _ =>
    .bind .get fun _ _ => .ite (.pure trivial) (.pure_bind (.bind fork_keepsUtf8 fun _ _ =>
      .ite (.pure trivial) (.pure_bind (.bind (modifyProcess_keepsUtf8 _) fun _ _ =>
        .bind (failsNow_keepsUtf8 _) fun _ _ =>
          .ite (.bind .get fun _ hw => .throw_std_bind (hw.env.what _))
            (.pure_bind (.bind (modifyProcess_keepsUtf8 _) fun _ _ => .pure trivial))))))))

/-- `is_alive` touches only the children. -/
theorem isAlive_keepsUtf8 : KeepsUtf8 isAlive fun _ => True :=
  .bind .get fun _ _ => .ite (.pure trivial)
    (.pure_bind (.bind (waitpidNoHang_keepsUtf8 _) fun _ _ => .pure trivial))

/-- The polling loop of `terminate` only sleeps and reaps. -/
theorem pollExit_keepsUtf8 (pid : Int) : ∀ n, KeepsUtf8 (pollExit pid n) fun _ => True
  | 0 => .pure trivial
  | n + 1 => .bind sleepFor_keepsUtf8 fun _ _ => .bind (waitpidNoHang_keepsUtf8 _) fun _ _ =>
    .ite (.pure trivial) (pollExit_keepsUtf8 pid n)

/-- `SIGTERM`, the polls and `SIGKILL` touch only the operating system. -/
theorem escalate_keepsUtf8 (pid : Int) : KeepsUtf8 (escalate pid) fun _ => True :=
  .bind (killGroup_keepsUtf8 _ _) fun _ _ => .bind (pollExit_keepsUtf8 _ _) fun _ _ =>
    .ite (.pure trivial) (.pure_bind (.bind (killGroup_keepsUtf8 _ _) fun _ _ =>
      .bind (.discard (waitpidBlocking_keepsUtf8 _)) fun _ _ => .pure trivial))

/-- `terminate` touches `process_` and the children, or throws the environment's message. -/
theorem terminate_keepsUtf8 : KeepsUtf8 terminate fun _ => True :=
  .bind .get fun _ hw => .ite (.pure trivial) (.pure_bind (.bind (escalate_keepsUtf8 _) fun _ _ =>
    .bind (failsNow_keepsUtf8 _) fun _ _ => .ite (.throw_std_bind (hw.env.what _))
      (.pure_bind (.bind (modifyProcess_keepsUtf8 _) fun _ _ => .pure trivial))))

/-- The destructor of `WireProxyProcess` keeps the invariant, or ends the process. -/
theorem destroy_keepsUtf8 : KeepsUtf8 destroy fun _ => True :=
  .tryCatch_abort (.bind (modifyProcess_keepsUtf8 _) fun _ _ => .bind .get fun _ _ =>
    .ite (.discard terminate_keepsUtf8) (.pure trivial))

/-- `has_network_drop` only reads. -/
theorem hasNetworkDrop_keepsUtf8 : KeepsUtf8 hasNetworkDrop fun _ => True :=
  .bind .get fun _ _ => .pure trivial

/-- The watchdog's trip touches only `process_` and the operating system. -/
theorem monitorTrips_keepsUtf8 : KeepsUtf8 monitorTrips fun _ => True :=
  .bind (modifyProcess_keepsUtf8 _) fun _ _ => .bind .get fun _ _ =>
    .ite_bind (killGroup_keepsUtf8 _ _) (.pure trivial) fun _ _ => modifyProcess_keepsUtf8 _

end WireProxyProcess

/-- `process_.reset()` keeps the invariant, or ends the process. -/
theorem resetProcess_keepsUtf8 : KeepsUtf8 resetProcess fun _ => True :=
  .bind WireProxyProcess.destroy_keepsUtf8 fun _ _ => .modify fun _ hw => ⟨hw.1, hw.2, hw.3⟩

namespace CommandHandler

section Replies

variable {config logFile : Bytes}

/-- An error reply with a UTF-8 name and message serializes. -/
theorem errorReply_dumps {cmd message : Bytes} (hc : utf8Valid cmd = true)
    (hm : utf8Valid message = true) : (errorReply cmd message).dump.isSome = true := by
  simp [errorReply, reply_dump_isSome, hc, hm]

/-- The already-running message is UTF-8 when the configuration is. -/
theorem alreadyRunningMessage_utf8 (h : utf8Valid config = true) :
    utf8Valid (alreadyRunningMessage config) = true := by
  unfold alreadyRunningMessage
  split
  · exact utf8Valid_append (by decide) rfl
  · exact utf8Valid_append (by decide) (utf8Valid_append (by decide) h)

/-- The reply of a started session serializes when its configuration and log are UTF-8. -/
theorem spinUpReply_dumps (hc : utf8Valid config = true) (hl : utf8Valid logFile = true)
    (pid : Int) : (spinUpReply config pid logFile).dump.isSome = true := by
  simp (disch := decide) [spinUpReply, resultReply, reply_dump_isSome, Json.text, utf8Valid_ascii,
    hc, hl]

/-- The reply of a stopped session serializes when its configuration and log are UTF-8. -/
theorem spinDownReply_dumps (hc : utf8Valid config = true) (hl : utf8Valid logFile = true) :
    (spinDownReply config logFile).dump.isSome = true := by
  simp (disch := decide) [spinDownReply, resultReply, reply_dump_isSome, Json.text, utf8Valid_ascii,
    hc, hl]

/-- The running state serializes when its configuration and log are UTF-8. -/
theorem runningStateReply_dumps (hc : utf8Valid config = true) (hl : utf8Valid logFile = true)
    (pid : Int) : (runningStateReply config pid logFile).dump.isSome = true := by
  simp (disch := decide) [runningStateReply, resultReply, reply_dump_isSome, utf8Valid_ascii, hc, hl]

/-- The stopped state serializes when the last log's path is UTF-8. -/
theorem stoppedStateReply_dumps (hl : utf8Valid logFile = true) :
    (stoppedStateReply logFile).dump.isSome = true := by
  simp (disch := decide) [stoppedStateReply, resultReply, reply_dump_isSome, utf8Valid_ascii]
  split <;> simp [hl]

end Replies

/-- The handlers reply with what serializes: `Dumps` is their postcondition. -/
def Dumps (r : Json) : Prop := r.dump.isSome = true

/-- The `try` block of `spin_up` on a UTF-8 name replies with what serializes. -/
theorem spinUpAttempt_keepsUtf8 {normalized : Bytes} (hn : utf8Valid normalized = true) :
    KeepsUtf8 (spinUpAttempt normalized) Dumps :=
  .bind BinaryManager.getVersion_keepsUtf8 fun _ _ =>
  .bind (LogManager.createLog_keepsUtf8 hn _) fun _ hlog =>
  .bind resetProcess_keepsUtf8 fun _ _ =>
  .bind (.modify fun _ hw => ⟨hw.1, hw.2, hw.3⟩) fun _ _ =>
  .bind .get fun _ _ =>
  .bind (WireProxyProcess.spawn_keepsUtf8 _) fun _ _ =>
  .ite
    (.bind (LogManager.finalize_keepsUtf8 _) fun _ _ => .bind resetProcess_keepsUtf8 fun _ _ =>
      .bind (.discard (transitionTo_keepsUtf8 _)) fun _ _ =>
      .pure (errorReply_dumps (by decide) (by decide)))
    (.pure_bind (.bind sleepFor_keepsUtf8 fun _ _ => .bind WireProxyProcess.isAlive_keepsUtf8 fun _ _ =>
      .ite
        (.bind .get fun _ hw => .bind (LogManager.finalize_keepsUtf8 _) fun _ _ =>
          .bind resetProcess_keepsUtf8 fun _ _ => .bind (.discard (transitionTo_keepsUtf8 _)) fun _ _ =>
          .bind (setCurrentConfig_keepsUtf8 rfl) fun _ _ =>
          .pure (errorReply_dumps (by decide) (utf8Valid_append (by decide) hw.currentLogPath)))
        (.pure_bind (.bind (setCurrentConfig_keepsUtf8 hn) fun _ _ =>
          .bind (.discard (transitionTo_keepsUtf8 _)) fun _ _ =>
          .bind .get fun _ _ => .pure (spinUpReply_dumps hn hlog _)))))

/-- The `catch` block of `spin_up` replies with what serializes. -/
theorem spinUpRecover_keepsUtf8 {what : Bytes} (h : utf8Valid what = true) :
    KeepsUtf8 (spinUpRecover what) Dumps :=
  .bind .get fun _ _ => .ite_bind (LogManager.finalize_keepsUtf8 _) (.pure trivial) fun _ _ =>
  .bind resetProcess_keepsUtf8 fun _ _ => .bind (.discard (transitionTo_keepsUtf8 _)) fun _ _ =>
  .bind (setCurrentConfig_keepsUtf8 rfl) fun _ _ =>
  .pure (errorReply_dumps (by decide) (utf8Valid_append (by decide) h))

/-- `spin_up` on a UTF-8 name replies with what serializes, or throws a UTF-8 message. -/
theorem handleSpinUp_keepsUtf8 {configName : Bytes} (h : utf8Valid configName = true) :
    KeepsUtf8 (handleSpinUp configName) Dumps :=
  have hn := utf8Valid_normalizeConfigName h
  .bind .get fun _ hw =>
  .ite (.pure (errorReply_dumps (by decide) (alreadyRunningMessage_utf8 hw.currentConfig)))
    (.pure_bind (.bind (ConfigManager.configExists_keepsUtf8 hn) fun _ _ =>
      .ite (.pure (errorReply_dumps (by decide) (utf8Valid_append (by decide) hn)))
        (.pure_bind (.bind (transitionTo_keepsUtf8 _) fun _ _ =>
          .ite (.pure (errorReply_dumps (by decide) (by decide)))
            (.pure_bind (.catchStd (spinUpAttempt_keepsUtf8 hn) fun _ => spinUpRecover_keepsUtf8))))))

/-- The `try` block of `spin_down` replies with what serializes. -/
theorem spinDownAttempt_keepsUtf8 {prevConfig logPath : Bytes}
    (hc : utf8Valid prevConfig = true) (hl : utf8Valid logPath = true) :
    KeepsUtf8 (spinDownAttempt prevConfig logPath) Dumps :=
  .bind WireProxyProcess.terminate_keepsUtf8 fun _ _ =>
  .bind (LogManager.finalize_keepsUtf8 _) fun _ _ => .bind resetProcess_keepsUtf8 fun _ _ =>
  .bind (setCurrentConfig_keepsUtf8 rfl) fun _ _ => .bind (.discard (transitionTo_keepsUtf8 _)) fun _ _ =>
  .pure (spinDownReply_dumps hc hl)

/-- The `catch` block of `spin_down` replies with what serializes. -/
theorem spinDownRecover_keepsUtf8 {what : Bytes} (h : utf8Valid what = true) :
    KeepsUtf8 (spinDownRecover what) Dumps :=
  .bind resetProcess_keepsUtf8 fun _ _ => .bind (setCurrentConfig_keepsUtf8 rfl) fun _ _ =>
  .bind (.discard (transitionTo_keepsUtf8 _)) fun _ _ =>
  .pure (errorReply_dumps (by decide) (utf8Valid_append (by decide) h))

/-- `spin_down` replies with what serializes. -/
theorem handleSpinDown_keepsUtf8 : KeepsUtf8 handleSpinDown Dumps :=
  .bind .get fun _ hw => .ite (.pure (errorReply_dumps (by decide) (by decide)))
    (.pure_bind (.bind (transitionTo_keepsUtf8 _) fun _ _ =>
      .ite (.pure (errorReply_dumps (by decide) (by decide)))
        (.pure_bind (.catchStd (spinDownAttempt_keepsUtf8 hw.currentConfig hw.currentLogPath)
          fun _ => spinDownRecover_keepsUtf8))))

/-- The probe of `state` clears `current_config_` or leaves it. -/
theorem checkAndCleanupProcess_keepsUtf8 : KeepsUtf8 checkAndCleanupProcess fun _ => True :=
  .bind .get fun _ _ =>
  .ite
    (.bind WireProxyProcess.isAlive_keepsUtf8 fun _ _ =>
      .ite
        (.bind WireProxyProcess.hasNetworkDrop_keepsUtf8 fun _ _ =>
          .bind (LogManager.finalize_keepsUtf8 _) fun _ _ => .bind resetProcess_keepsUtf8 fun _ _ =>
          .bind (setCurrentConfig_keepsUtf8 rfl) fun _ _ =>
          .bind (.discard (transitionTo_keepsUtf8 _)) fun _ _ => .pure trivial)
        (.pure_bind (.pure trivial)))
    (.pure_bind (.pure trivial))

/-- `state` replies with what serializes. -/
theorem handleState_keepsUtf8 : KeepsUtf8 handleState Dumps :=
  .bind (.discard checkAndCleanupProcess_keepsUtf8) fun _ _ => .bind .get fun _ hw =>
    .ite (.pure (runningStateReply_dumps hw.currentConfig hw.currentLogPath _))
      (.pure_bind (.pure (stoppedStateReply_dumps hw.currentLogPath)))

/-- `available_confs` replies with what serializes: the listed names are UTF-8. -/
theorem handleAvailableConfs_keepsUtf8 : KeepsUtf8 handleAvailableConfs Dumps :=
  .bind ConfigManager.listConfigs_keepsUtf8 fun _ hnames => .pure (by
    simpa (disch := decide) [Dumps, resultReply, reply_dump_isSome, utf8Valid_ascii] using hnames)

/-- `whoami` replies with what serializes. -/
theorem handleWhoami_keepsUtf8 : KeepsUtf8 handleWhoami Dumps :=
  .bind .get fun _ hw => .pure (by
    simp (disch := decide) [Dumps, resultReply, reply_dump_isSome, Json.text, utf8Valid_ascii,
      hw.env.daemonVersion])

/-- The dispatch on a UTF-8 name with UTF-8 arguments replies with what serializes. -/
theorem dispatch_keepsUtf8 {cmd : Bytes} {args : List Bytes} (hc : utf8Valid cmd = true)
    (hargs : ∀ a ∈ args, utf8Valid a = true) : KeepsUtf8 (dispatch cmd args) Dumps := by
  unfold dispatch
  refine .ite ?_ (.ite handleSpinDown_keepsUtf8 (.ite handleState_keepsUtf8
    (.ite handleAvailableConfs_keepsUtf8 (.ite handleWhoami_keepsUtf8
      (.pure (errorReply_dumps hc (utf8Valid_append (by decide) hc)))))))
  cases args with
  | nil => exact .pure (errorReply_dumps hc (by decide))
  | cons configName _ => exact handleSpinUp_keepsUtf8 (hargs configName (List.mem_cons_self _ _))

/-- `execute` on a UTF-8 line keeps the texts UTF-8 and replies with what serializes: the
command name and the arguments are cut from the line at ASCII bytes. -/
theorem execute_keepsUtf8 {line : Bytes} (h : utf8Valid line = true) :
    KeepsUtf8 (execute line) Dumps := by
  unfold execute
  split
  · exact .pure (errorReply_dumps (by decide) (by decide))
  · rename_i colonPos hcolon
    obtain ⟨hcmd, hrest⟩ := utf8Valid_split (by decide) hcolon h
    exact .catchStd (dispatch_keepsUtf8 hcmd (utf8Valid_parseArgs hrest))
      fun _ hwhat => .pure (errorReply_dumps hcmd hwhat)

/-- A reply of `execute` to a UTF-8 line, from a world whose texts are UTF-8, serializes, and
the world it leaves holds UTF-8 texts again. -/
theorem execute_reply_dumps {w w' : World} {line : Bytes} {r : Json} (hw : w.Utf8)
    (hline : utf8Valid line = true) (h : (execute line).run w = .ok r w') :
    r.dump.isSome = true ∧ w'.Utf8 := by
  have hk := execute_keepsUtf8 hline w hw
  rw [h] at hk
  exact ⟨hk.2, hk.1⟩

end CommandHandler

section Runs

open CommandHandler

/-- One step between command boundaries keeps the texts UTF-8, and a command on a UTF-8 line
gets a reply that serializes. -/
theorem Step.utf8 {w w' : World} {o : Option (Bytes × Json)} (h : Step w o w') (hw : w.Utf8)
    (hline : ∀ c ∈ o, utf8Valid c.1 = true) : w'.Utf8 ∧ ∀ c ∈ o, c.2.dump.isSome = true := by
  cases h with
  | execute hrun =>
    obtain ⟨hr, hw'⟩ := execute_reply_dumps hw (hline _ rfl) hrun
    exact ⟨hw', fun c hc => Option.some_inj.mp hc ▸ hr⟩
  | childExits => exact ⟨⟨hw.1, hw.2, hw.3⟩, fun _ h => nomatch h⟩
  | monitorTrips _ _ hrun =>
    have hk := WireProxyProcess.monitorTrips_keepsUtf8 w hw
    rw [hrun] at hk
    exact ⟨hk.1, fun _ h => nomatch h⟩

/-- Along every run from a world whose texts are UTF-8, with children exiting and the monitor
tripping between commands, every command on a UTF-8 line gets a reply that serializes. -/
theorem Run.utf8 {w w' : World} {obs : List (Bytes × Json)} (h : Run w obs w') (hw : w.Utf8)
    (hlines : ∀ o ∈ obs, utf8Valid o.1 = true) : w'.Utf8 ∧ ∀ o ∈ obs, o.2.dump.isSome = true := by
  induction h with
  | done => exact ⟨hw, fun _ h => nomatch h⟩
  | silent hs _ ih => exact ih (hs.utf8 hw fun _ h => nomatch h).1 hlines
  | command hs _ ih =>
    obtain ⟨hw', hr⟩ := hs.utf8 hw fun c hc => by cases hc; exact hlines _ (List.mem_cons_self _ _)
    obtain ⟨hend, hrest⟩ := ih hw' fun o ho => hlines o (List.mem_cons_of_mem _ ho)
    refine ⟨hend, fun o ho => ?_⟩
    rcases List.mem_cons.mp ho with rfl | ho
    · exact hr o rfl
    · exact hrest o ho

/-- From the start, in an environment whose texts are UTF-8, no run sends a reply to a UTF-8
command line that `dump()` cannot serialize. -/
theorem replies_to_utf8_lines_dump {env : Env} (henv : env.Utf8) {obs : List (Bytes × Json)}
    {w : World} (h : Run (World.init env) obs w) (hlines : ∀ o ∈ obs, utf8Valid o.1 = true) :
    ∀ o ∈ obs, o.2.dump.isSome = true :=
  (h.utf8 (World.init_utf8 henv) hlines).2

/-- `spin_up:wg` and `state:` from the start. -/
theorem replies_to_utf8_lines_dump_quiet :
    Env.quiet.Utf8 ∧ ∃ obs w, Run (World.init .quiet) obs w ∧
      obs.map Prod.fst = [ascii "spin_up:wg\n", ascii "state:\n"] ∧
      (∀ o ∈ obs, utf8Valid o.1 = true) ∧ ∀ o ∈ obs, o.2.dump.isSome = true := by
  obtain ⟨obs, h, hobs⟩ := Run.of_allReply
    (by decide : allReply (World.init .quiet) [ascii "spin_up:wg\n", ascii "state:\n"])
  have hlines : ∀ o ∈ obs, utf8Valid o.1 = true := fun o ho => by
    have hmem := List.mem_map_of_mem Prod.fst ho
    rw [hobs] at hmem
    rcases List.mem_pair.mp hmem with he | he <;> rw [he] <;> decide
  exact ⟨Env.quiet_utf8, obs, _, h, hobs, hlines,
    replies_to_utf8_lines_dump Env.quiet_utf8 h hlines⟩

end Runs

namespace TCPServer

variable {w : World}

/-- One read of a UTF-8 connection from a consistent dispatcher gets a reply that serializes. -/
theorem respond_served (hrel : w.env.Reliable) (hc : Consistent w) (hw : w.Utf8) {data : Bytes}
    (hd : utf8Valid data = true) :
    ∃ r w', (respond data).run w = .ok r w' ∧ r.dump.isSome = true ∧ w'.env = w.env ∧
      Consistent w' ∧ w'.Utf8 := by
  unfold respond
  cases hp : parseCommand data with
  | mk line success =>
    have hline : utf8Valid line = true := by simpa [hp] using utf8Valid_parseCommand hd
    cases success
    · exact ⟨_, w, rfl, rfl, rfl, hc, hw⟩
    · obtain ⟨r, w', hrun, henv, hc', -⟩ := execute_step hrel hc line
      exact ⟨r, w', hrun, (CommandHandler.execute_reply_dumps hw hline hrun).1, henv, hc',
        (CommandHandler.execute_reply_dumps hw hline hrun).2⟩

/-- A connection each of whose reads is UTF-8 never brings the daemon down: where
`get_version`, `terminate` and `finalize` succeed and the environment's texts are UTF-8, the
worker writes one reply for every read, from every consistent dispatcher, and leaves it
consistent. A UTF-8 stream cut inside a character is not covered: its second read starts with
a continuation byte. -/
theorem processClient_utf8_served (hrel : w.env.Reliable) (hc : Consistent w) (hw : w.Utf8)
    (reads : List Received) (hreads : ∀ d ∈ reads, utf8Valid d.data = true) :
    ∃ texts w', (processClient reads).run w = .ok texts w' ∧ texts.length = reads.length ∧
      Consistent w' ∧ w'.Utf8 := by
  induction reads generalizing w with
  | nil => exact ⟨[], w, rfl, rfl, hc, hw⟩
  | cons d rest ih =>
    obtain ⟨r, w₁, hr, hdump, henv, hc₁, hw₁⟩ :=
      respond_served hrel hc hw (hreads d (List.mem_cons_self d rest))
    obtain ⟨text, htext⟩ := Option.isSome_iff_exists.mp hdump
    obtain ⟨texts, w₂, hrest, hlen, hc₂, hw₂⟩ :=
      ih (henv ▸ hrel) hc₁ hw₁ fun d' hd' => hreads d' (List.mem_cons_of_mem d hd')
    refine ⟨(text ++ [newline]) :: texts, w₂, ?_, by simp [hlen], hc₂, hw₂⟩
    simp [processClient, hr, writeReply, htext, hrest]

/-- `state:` and then `spin_up:wg`, each in one read, from the start. -/
theorem processClient_utf8_served_quiet :
    Env.quiet.Reliable ∧ Consistent (World.init .quiet) ∧ (World.init .quiet).Utf8 ∧
      (∀ d ∈ [(⟨ascii "state:\n", by decide, by decide⟩ : Received),
        ⟨ascii "spin_up:wg\n", by decide, by decide⟩], utf8Valid d.data = true) ∧
      ∃ texts w', (processClient [⟨ascii "state:\n", by decide, by decide⟩,
          ⟨ascii "spin_up:wg\n", by decide, by decide⟩]).run (World.init .quiet) = .ok texts w' ∧
        texts.length = 2 ∧ Consistent w' ∧ w'.Utf8 :=
  have hrel : Env.quiet.Reliable := ⟨fun _ => rfl, fun _ => rfl, fun _ => rfl⟩
  have hreads : ∀ d ∈ [(⟨ascii "state:\n", by decide, by decide⟩ : Received),
      ⟨ascii "spin_up:wg\n", by decide, by decide⟩], utf8Valid d.data = true := by decide
  ⟨hrel, .inl (World.init_idle _), World.init_utf8 Env.quiet_utf8, hreads,
    processClient_utf8_served hrel (.inl (World.init_idle _)) (World.init_utf8 Env.quiet_utf8) _
      hreads⟩

end TCPServer

end Wpmd
