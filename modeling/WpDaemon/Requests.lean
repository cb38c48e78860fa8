import WpDaemon.Supervisor

/-!
# Reading a command line

`execute` cuts a line at its first colon into the command name and the text after it, drops a
trailing newline from that text, splits it at commas, trims each field of spaces and tabs
and drops the fields that end up empty. Over the request grammar `CMD:F1,...,Fk\n` this is
the dispatch on `CMD` with the trimmed, non-empty fields in order (`execute_request`). Only
spaces and tabs are trimmed: a carriage return before the newline stays in the last
argument.

The checks that turn a line down (no colon, an unknown name, `spin_up` without an argument,
outside `IDLE`, with no such configuration or with a path `stat` fails on, `spin_down` outside
a session) answer before anything is done, so they leave the whole world as it was
(`execute_rejected`).
-/

namespace Wpmd

open CommandHandler ConfigManager

section Grammar

/-- The field before a comma is read whole, and the next one starts empty. -/
theorem splitFields_append_comma {x : Bytes} (hx : 44 ∉ x) (field y : Bytes) :
    splitFields field (x ++ 44 :: y) = (field ++ x) :: splitFields [] y := by
  induction x generalizing field with
  | nil => simp [splitFields]
  | cons b x ih =>
    have hb : b ≠ 44 := fun h => hx (h ▸ List.mem_cons_self b x)
    simp [splitFields, hb, ih (fun h => hx (List.mem_cons_of_mem b h))]

/-- The last field is read when it has a byte. -/
theorem splitFields_of_not_mem {x : Bytes} (hx : 44 ∉ x) (field : Bytes) :
    splitFields field x = if (field ++ x).isEmpty then [] else [field ++ x] := by
  induction x generalizing field with
  | nil => simp [splitFields]
  | cons b x ih =>
    have hb : b ≠ 44 := fun h => hx (h ▸ List.mem_cons_self b x)
    simp [splitFields, hb, ih (fun h => hx (List.mem_cons_of_mem b h))]

/-- Fields joined by commas are split back into the same fields, up to the empty last one
that `getline` does not read and that trimming would drop anyway. -/
theorem splitFields_intercalate :
    ∀ {fields : List Bytes}, (∀ f ∈ fields, 44 ∉ f) →
      ((splitFields [] ([44].intercalate fields)).map trim).filter (!·.isEmpty) =
        (fields.map trim).filter (!·.isEmpty)
  | [], _ => rfl
  | [f], h => by
    have hjoin : [(44 : UInt8)].intercalate [f] = f := by simp [List.intercalate]
    rw [hjoin, splitFields_of_not_mem (h f (List.mem_singleton_self f))]
    cases f <;> simp [trim]
  | f :: g :: rest, h => by
    have hjoin : [(44 : UInt8)].intercalate (f :: g :: rest) =
        f ++ 44 :: [44].intercalate (g :: rest) := by
      simp [List.intercalate, List.intersperse_cons₂]
    rw [hjoin, splitFields_append_comma (h f (List.mem_cons_self f _)), List.nil_append,
      List.map_cons, List.map_cons, List.filter_cons, List.filter_cons, splitFields_intercalate
        fun x hx => h x (List.mem_cons_of_mem f hx)]

/-- The arguments of a line of the request grammar: its fields, trimmed, the empty ones
dropped. -/
theorem parseArgs_fields {fields : List Bytes} (h : ∀ f ∈ fields, 44 ∉ f) :
    parseArgs ([44].intercalate fields ++ [newline]) = (fields.map trim).filter (!·.isEmpty) := by
  simp [parseArgs, List.dropLast_concat, splitFields_intercalate h]

/-- Over the request grammar `CMD:F1,...,Fk\n`, with no colon in the name and no comma in a
field, `execute` dispatches on the name with the fields trimmed of spaces and tabs and the
empty ones dropped, in order; what escapes a handler becomes an error reply for the name. -/
theorem execute_request {cmd : Bytes} (hcmd : 58 ∉ cmd) {fields : List Bytes}
    (hfields : ∀ f ∈ fields, 44 ∉ f) :
    execute (cmd ++ 58 :: ([44].intercalate fields ++ [newline])) =
      catchStd (dispatch cmd ((fields.map trim).filter (!·.isEmpty)))
        fun what => pure (errorReply cmd what) := by
  simp [execute, findByte_append_cons hcmd, parseArgs_fields hfields]

theorem execute_request_spinUp :
    (58 ∉ ascii "spin_up" ∧ ∀ f ∈ [ascii " wg ", ascii "", ascii "x"], 44 ∉ f) ∧
      execute (ascii "spin_up" ++ 58 :: ([44].intercalate [ascii " wg ", ascii "", ascii "x"] ++
        [newline])) =
        catchStd (dispatch (ascii "spin_up") [ascii "wg", ascii "x"])
          fun what => pure (errorReply (ascii "spin_up") what) :=
  ⟨by decide, execute_request (by decide) (by decide)⟩

/-- The configuration directory with the one file `wg.conf`. -/
def Env.wgOnly : Env := { Env.quiet with
  isRegularFile := fun path => path == getConfigPath Env.quiet (ascii "wg")
  configEntries := [(ascii "wg.conf", true)] }

/-- A carriage return before the newline is not trimmed: with only `wg.conf` present, the
line `spin_up:wg\r\n` asks for `wg\r.conf` and is turned down, where `spin_up:wg\n` starts
`wg.conf`. -/
theorem execute_crlf_argument :
    (execute (ascii "spin_up:wg\r\n")).run (World.init Env.wgOnly) =
        .ok (errorReply (ascii "spin_up") (ascii "Configuration not found: wg\r.conf"))
          (World.init Env.wgOnly) ∧
      ∃ path w', (execute (ascii "spin_up:wg\n")).run (World.init Env.wgOnly) =
        .ok (spinUpReply (ascii "wg.conf") 2 path) w' :=
  ⟨rfl, _, _, rfl⟩

end Grammar

section Rejections

/-- The checks of `execute` and its handlers that turn a line down before doing anything,
each with the reply it gives. -/
inductive Rejection (w : World) : Bytes → Json → Prop
  /-- A line without a colon. -/
  | parseError {line : Bytes} : findByte 58 line = none →
      Rejection w line (errorReply (ascii "unknown") (ascii "Parsing error: colon not found"))
  /-- A name that is none of the five commands. -/
  | unknownCommand {line : Bytes} {colonPos : Nat} : findByte 58 line = some colonPos →
      line.take colonPos ∉ [ascii "spin_up", ascii "spin_down", ascii "state",
        ascii "available_confs", ascii "whoami"] →
      Rejection w line (errorReply (line.take colonPos) (ascii "Unknown command: " ++ line.take colonPos))
  /-- `spin_up` with no argument left after trimming. -/
  | missingArgument {line : Bytes} {colonPos : Nat} : findByte 58 line = some colonPos →
      line.take colonPos = ascii "spin_up" → parseArgs (line.drop (colonPos + 1)) = [] →
      Rejection w line
        (errorReply (ascii "spin_up") (ascii "Not enough args: spin_up requires config name"))
  /-- `spin_up` outside `IDLE`. -/
  | alreadyRunning {line configName : Bytes} {rest : List Bytes} {colonPos : Nat} :
      findByte 58 line = some colonPos → line.take colonPos = ascii "spin_up" →
      parseArgs (line.drop (colonPos + 1)) = configName :: rest → w.state ≠ .idle →
      Rejection w line (errorReply (ascii "spin_up") (alreadyRunningMessage w.currentConfig))
  /-- `spin_up` in `IDLE` for a configuration whose path, cut at its first NUL, `stat` finds
  to be no regular file. -/
  | configNotFound {line configName : Bytes} {rest : List Bytes} {colonPos : Nat} :
      findByte 58 line = some colonPos → line.take colonPos = ascii "spin_up" →
      parseArgs (line.drop (colonPos + 1)) = configName :: rest → w.state = .idle →
      w.env.statError (cString (getConfigPath w.env (normalizeConfigName configName))) = none →
      w.env.isRegularFile (cString (getConfigPath w.env (normalizeConfigName configName))) = false →
      Rejection w line (errorReply (ascii "spin_up")
        (ascii "Configuration not found: " ++ normalizeConfigName configName))
  /-- `spin_up` in `IDLE` for a configuration whose path `stat` fails on: `exists` throws a
  `filesystem_error` and `execute` answers with its `what()`. -/
  | configStatFails {line configName message : Bytes} {rest : List Bytes} {colonPos : Nat} :
      findByte 58 line = some colonPos → line.take colonPos = ascii "spin_up" →
      parseArgs (line.drop (colonPos + 1)) = configName :: rest → w.state = .idle →
      w.env.statError (cString (getConfigPath w.env (normalizeConfigName configName))) =
        some message →
      Rejection w line (errorReply (ascii "spin_up") (filesystemError (ascii "status") message
        (getConfigPath w.env (normalizeConfigName configName))))
  /-- `spin_down` with no session. -/
  | notRunning {line : Bytes} {colonPos : Nat} : findByte 58 line = some colonPos →
      line.take colonPos = ascii "spin_down" → (w.state ≠ .running ∨ w.process = none) →
      Rejection w line (errorReply (ascii "spin_down") (ascii "WireProxy is not running"))

/-- A rejected line gets its rejection's reply and leaves the whole world as it was: the state
machine, `process_` with its child and watchdog, `current_config_`, the log manager, the
operating system and the counters of the environment's calls. -/
theorem execute_rejected {w : World} {line : Bytes} {reply : Json} (h : Rejection w line reply) :
    (execute line).run w = .ok reply w := by
  cases h with
  | parseError hcolon => simp [execute, hcolon]
  | unknownCommand hcolon hname =>
    simp only [List.mem_cons, List.mem_singleton, not_or, List.not_mem_nil] at hname
    simp [execute, hcolon, dispatch, hname]
  | missingArgument hcolon hname hargs => simp [execute, hcolon, dispatch, hname, hargs]
  | alreadyRunning hcolon hname hargs hstate =>
    simp [execute, hcolon, dispatch, hname, hargs, handleSpinUp_of_ne_idle hstate]
  | configNotFound hcolon hname hargs hstate hstat hfile =>
    simp [execute, hcolon, dispatch, hname, hargs, handleSpinUp, hstate, hstat, hfile]
  | configStatFails hcolon hname hargs hstate hstat =>
    simp [execute, hcolon, dispatch, hname, hargs, handleSpinUp, hstate, hstat]
  | notRunning hcolon hname hstate =>
    have hup : ascii "spin_down" ≠ ascii "spin_up" := by decide
    rcases hstate with hstate | hnone
    · simp [execute, hcolon, dispatch, hname, hup, handleSpinDown_of_ne_running hstate]
    · simp [execute, hcolon, dispatch, hname, hup, handleSpinDown, hnone]

theorem execute_rejected_spinDown :
    Rejection (World.init .quiet) (ascii "spin_down:\n")
        (errorReply (ascii "spin_down") (ascii "WireProxy is not running")) ∧
      (execute (ascii "spin_down:\n")).run (World.init .quiet) =
        .ok (errorReply (ascii "spin_down") (ascii "WireProxy is not running")) (World.init .quiet) :=
  have h : Rejection (World.init .quiet) (ascii "spin_down:\n")
      (errorReply (ascii "spin_down") (ascii "WireProxy is not running")) :=
    .notRunning (show findByte 58 (ascii "spin_down:\n") = some 9 from rfl) rfl (.inl (by decide))
  ⟨h, execute_rejected h⟩

end Rejections

end Wpmd
