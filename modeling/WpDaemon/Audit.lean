import WpDaemon.Dispatcher
import WpDaemon.TcpServer
import WpDaemon.Watchdog

/-!
# The audit log around every command

`run_daemon_mode` does not hand `CommandHandler::execute` to `TCPServer` directly. Its
callback first writes the command to the audit log, then runs `execute`, then writes the
outcome: `log_error` with the reply's `error` when that is not null, `log_success` with the
command otherwise. `AuditLogger::write_log` appends one entry,
`[<time>] <category> <message>` and a newline. It first opens `audit.log` again if the
file is closed.

The callback returns `execute`'s reply and leaves the world as `execute` leaves it. Passing
`result["error"]` to `log_error` converts it to a `std::string`. That conversion throws on
anything but a string, but it never throws here, since every reply carries a message or a
null under `error` (`onRecv_run`). So the worker with the real callback is the worker over
`execute` that the earlier modules reason about (`processClientAudited_refines`). Every
command line the worker serves adds its two entries; a read without a newline adds none.
`get_last_lines` runs a `std::deque` window over the lines of the file and returns the
file's last `n` lines. The command line keeps its newline in both of its entries. In the
file, the `CMD` entry's ` from tcp_client` therefore stands on a line of its own, and an
empty line follows every success.
-/

namespace Wpmd

/-- `enum class AuditCategory`. -/
inductive AuditCategory
  | cmd
  | state
  | action
  | error
  | success
  | info
  deriving DecidableEq, Repr

/-- What `audit.log` depends on outside the daemon: the text `get_timestamp` gives the
`n`-th entry (`std::put_time` of the local time as `%Y-%m-%d %H:%M:%S`, so no newline), and
whether the `n`-th attempt to open the file for appending succeeds. -/
structure AuditEnv where
  timestamp : Nat → Bytes
  timestamp_noNewline : ∀ n, newline ∉ timestamp n
  opens : Nat → Bool

/-- The state of an `AuditLogger`: the contents of `audit.log` (`none` while it does not
exist), whether `log_file_` is open, the attempts to open it so far and the entries
written. -/
structure AuditLogger where
  file : Option Bytes
  isOpen : Bool
  attempts : Nat
  entries : Nat
  deriving DecidableEq, Repr

namespace AuditLogger

/-- `AuditLogger::category_to_string`. -/
def categoryToString : AuditCategory → Bytes
  | .cmd => ascii "[CMD]"
  | .state => ascii "[STATE]"
  | .action => ascii "[ACTION]"
  | .error => ascii "[ERROR]"
  | .success => ascii "[SUCCESS]"
  | .info => ascii "[INFO]"

/-- One entry as `write_log` streams it, the newline of `std::endl` included. -/
def entry (stamp : Bytes) (category : AuditCategory) (message : Bytes) : Bytes :=
  ascii "[" ++ stamp ++ ascii "] " ++ categoryToString category ++ ascii " " ++ message ++
    [newline]

/-- `AuditLogger::ensure_open`: open `audit.log` for appending when `log_file_` is closed,
which creates the file. -/
def ensureOpen (env : AuditEnv) (a : AuditLogger) : AuditLogger :=
  if a.isOpen then a
  else if env.opens a.attempts then
    { a with isOpen := true, file := some (a.file.getD []), attempts := a.attempts + 1 }
  else { a with attempts := a.attempts + 1 }

/-- `AuditLogger::write_log`: an entry at the end of the file, when it is open. -/
def writeLog (env : AuditEnv) (category : AuditCategory) (message : Bytes) (a : AuditLogger) :
    AuditLogger :=
  let a := ensureOpen env a
  if a.isOpen then
    { a with
      file := some (a.file.getD [] ++ entry (env.timestamp a.entries) category message)
      entries := a.entries + 1 }
  else a

/-- The message of `log_command`. -/
def commandMessage (command source : Bytes) : Bytes :=
  ascii "Command received: " ++ command ++ (if source.isEmpty then [] else ascii " from " ++ source)

/-- The message of `log_action` and `log_success`: the text, then `: ` and the details when
there are any. -/
def detailsMessage (text details : Bytes) : Bytes :=
  text ++ (if details.isEmpty then [] else ascii ": " ++ details)

/-- The message of `log_error`: the context in brackets before the error, when there is
one. -/
def errorMessage (error context : Bytes) : Bytes :=
  if context.isEmpty then error else ascii "[" ++ context ++ ascii "] " ++ error

/-- `AuditLogger::log_command`. -/
def logCommand (env : AuditEnv) (command source : Bytes) : AuditLogger → AuditLogger :=
  writeLog env .cmd (commandMessage command source)

/-- `AuditLogger::log_error`. -/
def logError (env : AuditEnv) (error context : Bytes) : AuditLogger → AuditLogger :=
  writeLog env .error (errorMessage error context)

/-- `AuditLogger::log_success`. -/
def logSuccess (env : AuditEnv) (operation details : Bytes) : AuditLogger → AuditLogger :=
  writeLog env .success (detailsMessage operation details)

/-- `std::getline` on an `std::ifstream` until it fails: the lines without their newlines,
the last one also when no newline ends it. -/
def readLines (current : Bytes) : Bytes → List Bytes
  | [] => if current.isEmpty then [] else [current]
  | b :: s => if b = newline then current :: readLines [] s else readLines (current ++ [b]) s

/-- One line through the `std::deque` of `get_last_lines`: `push_back`, then `pop_front`
when it holds more than `n`. -/
def windowPush (n : Nat) (window : List Bytes) (line : Bytes) : List Bytes :=
  if (window ++ [line]).length > n then (window ++ [line]).tail else window ++ [line]

/-- `AuditLogger::get_last_lines`: nothing when `audit.log` does not exist, else its lines
through the window, each followed by a newline. -/
def getLastLines (n : Nat) (a : AuditLogger) : Bytes :=
  match a.file with
  | none => []
  | some content => (((readLines [] content).foldl (windowPush n) []).map (· ++ [newline])).flatten

end AuditLogger

/-- `j.contains(key)`, and then `j[key]`, on an object. -/
def Json.member (key : Bytes) : Json → Option Json
  | .object fields => fields.lookup key
  | _ => none

open AuditLogger

/-- The callback `run_daemon_mode` gives `TCPServer`. The conversion of `result["error"]` to
the `std::string` parameter of `log_error` throws `type_error` on anything but a string, and
nothing in the worker thread catches it. -/
def onRecv (env : AuditEnv) (cmd : Bytes) (a : AuditLogger) : Cmd (Json × AuditLogger) := do
  let a := logCommand env cmd (ascii "tcp_client") a
  let result ← CommandHandler.execute cmd
  match result.member (ascii "error") with
  | none | some .null => return (result, logSuccess env (ascii "Command executed successfully") cmd a)
  | some (.string error) => return (result, logError env error (ascii "command_execution") a)
  | some _ => throw .abort

/-- `TCPServer::process_client`'s answer to one read, with the daemon's callback. -/
def respondAudited (env : AuditEnv) (data : Bytes) (a : AuditLogger) : Cmd (Json × AuditLogger) :=
  let (command, success) := TCPServer.parseCommand data
  if success then onRecv env command a else pure (TCPServer.newlineNotFoundReply, a)

/-- The loop of `TCPServer::process_client` with the daemon's callback: the bytes written,
one reply a read, and the audit logger after them. -/
def processClientAudited (env : AuditEnv) :
    List TCPServer.Received → AuditLogger → Cmd (List Bytes × AuditLogger)
  | [], a => pure ([], a)
  | data :: rest, a => do
    let (response, a) ← respondAudited env data.data a
    let text ← TCPServer.writeReply response
    let (texts, a) ← processClientAudited env rest a
    return (text :: texts, a)

/-- The entries the callback writes for a command whose reply is `reply`: the command, then
the reply's error message or the success. -/
def auditCommand (env : AuditEnv) (cmd : Bytes) (reply : Json) (a : AuditLogger) : AuditLogger :=
  let a := logCommand env cmd (ascii "tcp_client") a
  match reply.member (ascii "error") with
  | some (.string error) => logError env error (ascii "command_execution") a
  | _ => logSuccess env (ascii "Command executed successfully") cmd a

/-- The entries the worker's callback writes for one read: those of its command line, none
for a read without a newline. -/
def auditRead (env : AuditEnv) (data : Bytes) (reply : Json) (a : AuditLogger) : AuditLogger :=
  if (TCPServer.parseCommand data).2 then auditCommand env (TCPServer.parseCommand data).1 reply a
  else a

section Callback

variable (env : AuditEnv)

/-- Under `error`, a reply of the schema holds a message or a null. -/
theorem ReplySchema.member_error {cmd : Bytes} {reply : Json} (h : ReplySchema cmd reply) :
    (∃ message, reply.member (ascii "error") = some (.string message)) ∨
      reply.member (ascii "error") = some .null := by
  obtain ⟨result, error, rfl, ⟨-, message, rfl⟩ | ⟨-, rfl⟩⟩ := h
  · exact .inl ⟨message, rfl⟩
  · exact .inr rfl

/-- What `execute` returns is a reply of the schema for the line's command name. -/
theorem ReplySchema.of_execute {line : Bytes} {w w' : World} {reply : Json}
    (h : (CommandHandler.execute line).run w = .ok reply w') :
    ReplySchema (commandName line) reply := by
  have hs := execute_spec w.refused line w.state w ⟨rfl, rfl⟩
  rw [h] at hs
  exact hs.2

/-- The callback is `execute` with the audit entries around it: it returns the same reply,
leaves the same world, and the conversion of the reply's `error` never throws. -/
theorem onRecv_run (cmd : Bytes) (a : AuditLogger) (w : World) :
    (onRecv env cmd a).run w = match (CommandHandler.execute cmd).run w with
      | .ok reply w' => .ok (reply, auditCommand env cmd reply a) w'
      | .error e w' => .error e w' := by
  rcases hrun : (CommandHandler.execute cmd).run w with ⟨reply, w'⟩ | ⟨e, w'⟩
  · rcases (ReplySchema.of_execute hrun).member_error with ⟨message, hm⟩ | hm <;>
      simp [onRecv, auditCommand, hrun, hm]
  · simp [onRecv, hrun]

/-- One read with the daemon's callback: the reply and the world of `TCPServer.respond`, and
the callback's entries when the read holds a command line. -/
theorem respondAudited_run (data : Bytes) (a : AuditLogger) (w : World) :
    (respondAudited env data a).run w = match (TCPServer.respond data).run w with
      | .ok reply w' => .ok (reply, auditRead env data reply a) w'
      | .error e w' => .error e w' := by
  rcases h : TCPServer.parseCommand data with ⟨command, _ | _⟩ <;>
    simp [respondAudited, TCPServer.respond, auditRead, h, onRecv_run]

/-- The worker with the daemon's callback writes the same bytes and leaves the same world as
the worker over `execute`, read after read, whatever the audit log does. -/
theorem processClientAudited_refines (reads : List TCPServer.Received) (a : AuditLogger)
    (w : World) :
    (Prod.fst <$> processClientAudited env reads a).run w = (TCPServer.processClient reads).run w := by
  induction reads generalizing a w with
  | nil => rfl
  | cons data rest ih =>
    simp only [processClientAudited, TCPServer.processClient, Cmd.run_map, Cmd.run_bind,
      respondAudited_run]
    rcases hr : (TCPServer.respond data.data).run w with ⟨reply, w₁⟩ | ⟨e, w₁⟩
    · rcases hw : (TCPServer.writeReply reply).run w₁ with ⟨text, w₂⟩ | ⟨e, w₂⟩
      · have h := ih (auditRead env data.data reply a) w₂
        simp only [Cmd.run_map] at h
        rcases hp : (processClientAudited env rest _).run w₂ with ⟨⟨texts, a'⟩, w₃⟩ | ⟨e, w₃⟩ <;>
          rw [hp] at h <;> simp [hw, hp, ← h]
      · simp [hw]
    · rfl

end Callback

section Window

open WireProxyProcess (WholeLines)

/-- The window after one more line holds the last `n` lines of all lines so far. -/
theorem windowPush_drop (n : Nat) (l : List Bytes) (x : Bytes) :
    windowPush n (l.drop (l.length - n)) x = (l ++ [x]).drop ((l ++ [x]).length - n) := by
  rw [windowPush, ← List.drop_append_of_le_length (by omega)]
  simp only [List.length_drop, List.length_append, List.length_singleton]
  split_ifs with h
  · rw [← List.drop_one, List.drop_drop]
    congr 1
    omega
  · congr 1
    omega

/-- The deque of `get_last_lines` ends with the last `n` lines it was given. -/
theorem foldl_windowPush (n : Nat) :
    ∀ (lines pre : List Bytes), lines.foldl (windowPush n) (pre.drop (pre.length - n)) =
      (pre ++ lines).drop ((pre ++ lines).length - n)
  | [], pre => by simp
  | x :: rest, pre => by
    rw [List.foldl_cons, windowPush_drop, foldl_windowPush n rest, List.append_assoc,
      List.singleton_append]

/-- `get_last_lines(n)` returns the last `n` lines of `audit.log`, each with its newline: the
deque's window is the plain drop of all but the last `n`. -/
theorem getLastLines_eq (n : Nat) (a : AuditLogger) :
    getLastLines n a = match a.file with
      | none => []
      | some content => let lines := readLines [] content
        ((lines.drop (lines.length - n)).map (· ++ [newline])).flatten := by
  rcases h : a.file with _ | content
  · simp [getLastLines, h]
  · have hwin := foldl_windowPush n (readLines [] content) []
    simp only [List.nil_append, List.length_nil, Nat.zero_sub, List.drop_zero] at hwin
    simp only [getLastLines, h, hwin]

@[simp] theorem readLines_newline (current s : Bytes) :
    readLines current (newline :: s) = current :: readLines [] s := by
  simp [readLines]

theorem readLines_of_ne {b : UInt8} (hb : b ≠ newline) (current s : Bytes) :
    readLines current (b :: s) = readLines (current ++ [b]) s := by
  simp [readLines, hb]

/-- A newline-ended text is read line by line, and its lines with their newlines give it
back after the line begun before it. -/
theorem flatten_readLines_of_getLast :
    ∀ (t current : Bytes), t.getLast? = some newline →
      ((readLines current t).map (· ++ [newline])).flatten = current ++ t
  | [], _, h => by simp at h
  | b :: s, current, h => by
    by_cases hb : b = newline
    · rcases s with _ | ⟨c, s⟩
      · simp [readLines, hb]
      · rw [List.getLast?_cons_cons] at h
        rw [readLines, if_pos hb, List.map_cons, List.flatten_cons,
          flatten_readLines_of_getLast (c :: s) [] h, hb]
        simp
    · rcases s with _ | ⟨c, s⟩
      · simp_all
      · rw [List.getLast?_cons_cons] at h
        rw [readLines, if_neg hb, flatten_readLines_of_getLast (c :: s) _ h]
        simp

/-- Text made of whole lines is read line by line, and its lines with their newlines give it
back. -/
theorem flatten_readLines {t : Bytes} (ht : WholeLines t) :
    ((readLines [] t).map (· ++ [newline])).flatten = t := by
  rcases ht with rfl | h
  · rfl
  · simpa using flatten_readLines_of_getLast t [] h

/-- The lines of a newline-ended text followed by more text are the lines of each. -/
theorem readLines_append_of_getLast :
    ∀ (c current t : Bytes), c.getLast? = some newline →
      readLines current (c ++ t) = readLines current c ++ readLines [] t
  | [], _, _, h => by simp at h
  | b :: s, current, t, h => by
    by_cases hb : b = newline
    · rcases s with _ | ⟨c, s⟩
      · simp [readLines, hb]
      · rw [List.getLast?_cons_cons] at h
        subst hb
        rw [List.cons_append, readLines_newline, readLines_newline,
          readLines_append_of_getLast (c :: s) [] t h, List.cons_append]
    · rcases s with _ | ⟨c, s⟩
      · simp_all
      · rw [List.getLast?_cons_cons] at h
        rw [List.cons_append, readLines_of_ne hb, readLines_of_ne hb,
          readLines_append_of_getLast (c :: s) _ t h]

/-- The lines of whole-line text followed by more text are the lines of each. -/
theorem readLines_append {c : Bytes} (hc : WholeLines c) (t : Bytes) :
    readLines [] (c ++ t) = readLines [] c ++ readLines [] t := by
  rcases hc with rfl | h
  · rfl
  · exact readLines_append_of_getLast c [] t h

/-- What was last appended to `audit.log`, as whole lines, is what `get_last_lines` returns
for its number of lines. -/
theorem getLastLines_of_append {a : AuditLogger} {c t : Bytes} (hfile : a.file = some (c ++ t))
    (hc : WholeLines c) (ht : WholeLines t) : getLastLines (readLines [] t).length a = t := by
  rw [getLastLines_eq, hfile]
  simp only [readLines_append hc, List.length_append, Nat.add_sub_cancel, List.drop_left]
  exact flatten_readLines ht

end Window

section Entries

open WireProxyProcess (WholeLines)

variable (env : AuditEnv)

/-- An open audit log takes each entry at its end and stays open. -/
theorem writeLog_of_isOpen {a : AuditLogger} (ha : a.isOpen = true) (category : AuditCategory)
    (message : Bytes) :
    writeLog env category message a = { a with
      file := some (a.file.getD [] ++ entry (env.timestamp a.entries) category message)
      entries := a.entries + 1 } := by
  simp [writeLog, ensureOpen, ha]

/-- An entry ends its last line. -/
theorem entry_wholeLines (stamp : Bytes) (category : AuditCategory) (message : Bytes) :
    WholeLines (entry stamp category message) :=
  .inr (by simp [entry])

/-- On an open audit log, a command adds its two entries at the end, as whole lines. -/
theorem auditCommand_of_isOpen {a : AuditLogger} (ha : a.isOpen = true) (cmd : Bytes)
    (reply : Json) :
    (auditCommand env cmd reply a).isOpen = true ∧
      (auditCommand env cmd reply a).entries = a.entries + 2 ∧
      ∃ t, WholeLines t ∧ (auditCommand env cmd reply a).file = some (a.file.getD [] ++ t) := by
  have hlog := writeLog_of_isOpen env ha .cmd (commandMessage cmd (ascii "tcp_client"))
  have hopen : (logCommand env cmd (ascii "tcp_client") a).isOpen = true := by
    simp [logCommand, hlog, ha]
  unfold auditCommand
  split <;> simp only [logError, logSuccess] <;> rw [writeLog_of_isOpen env hopen] <;>
    simp only [logCommand, hlog] <;>
    exact ⟨ha, by simp, _, (entry_wholeLines _ _ _).append (entry_wholeLines _ _ _),
      by rw [Option.getD_some, List.append_assoc]⟩

/-- `parse_command` finds a command line exactly in a read that holds a newline. -/
theorem parseCommand_snd (data : Bytes) :
    (TCPServer.parseCommand data).2 = decide (newline ∈ data) := by
  unfold TCPServer.parseCommand
  cases h : findByte newline data with
  | none => simp [findByte_eq_none.mp h]
  | some i =>
    have : newline ∈ data := by
      by_contra hn
      simp [findByte_eq_none.mpr hn] at h
    simp [this]

/-- What one read leaves in an open audit log: two entries at the end when it holds a command
line, nothing when it does not. -/
theorem auditRead_of_isOpen {a : AuditLogger} {c : Bytes} (ha : a.isOpen = true)
    (hc : a.file = some c) (data : Bytes) (reply : Json) :
    (auditRead env data reply a).isOpen = true ∧
      (auditRead env data reply a).entries = a.entries + (if newline ∈ data then 2 else 0) ∧
      ∃ t, WholeLines t ∧ (auditRead env data reply a).file = some (c ++ t) := by
  by_cases hnl : newline ∈ data
  · obtain ⟨hopen, hentries, t, ht, hfile⟩ := auditCommand_of_isOpen env ha
      (TCPServer.parseCommand data).1 reply
    simp only [hc, Option.getD_some] at hfile
    simp only [auditRead, parseCommand_snd, hnl, decide_eq_true_eq, if_true]
    exact ⟨hopen, hentries, t, ht, hfile⟩
  · simp only [auditRead, parseCommand_snd, hnl, decide_eq_true_eq, if_false]
    exact ⟨ha, rfl, [], .inl rfl, by simp [hc]⟩

/-- Over a connection, an open audit log stays open and only grows at its end, by whole
lines: two entries for each read that holds a command line, none for a read without a
newline. -/
theorem processClientAudited_entries {reads : List TCPServer.Received} {a a' : AuditLogger}
    {c : Bytes} (ha : a.isOpen = true) (hc : a.file = some c) {w w' : World} {texts : List Bytes}
    (h : (processClientAudited env reads a).run w = .ok (texts, a') w') :
    a'.isOpen = true ∧ a'.entries = a.entries + 2 * reads.countP (fun d => newline ∈ d.data) ∧
      ∃ t, WholeLines t ∧ a'.file = some (c ++ t) := by
  induction reads generalizing a c w texts with
  | nil =>
    simp only [processClientAudited, Cmd.run_pure, EStateM.Result.ok.injEq, Prod.mk.injEq] at h
    obtain ⟨⟨-, rfl⟩, -⟩ := h
    exact ⟨ha, by simp, [], .inl rfl, by simp [hc]⟩
  | cons data rest ih =>
    simp only [processClientAudited, Cmd.run_bind, respondAudited_run] at h
    rcases hr : (TCPServer.respond data.data).run w with ⟨reply, w₁⟩ | ⟨e, w₁⟩ <;>
      simp only [hr, reduceCtorEq] at h
    obtain ⟨hopen, hentries, t₁, ht₁, hfile⟩ := auditRead_of_isOpen env ha hc data.data reply
    rcases hw : (TCPServer.writeReply reply).run w₁ with ⟨text, w₂⟩ | ⟨e, w₂⟩ <;>
      simp only [hw, reduceCtorEq] at h
    rcases hp : (processClientAudited env rest (auditRead env data.data reply a)).run w₂ with
      ⟨⟨texts', a''⟩, w₃⟩ | ⟨e, w₃⟩ <;>
      simp only [hp, Cmd.run_pure, EStateM.Result.ok.injEq, Prod.mk.injEq, reduceCtorEq] at h
    obtain ⟨⟨-, rfl⟩, rfl⟩ := h
    obtain ⟨hopen', hentries', t₂, ht₂, hfile'⟩ := ih hopen hfile hp
    refine ⟨hopen', ?_, t₁ ++ t₂, ht₁.append ht₂, by rw [hfile', List.append_assoc]⟩
    rw [hentries', hentries, List.countP_cons]
    by_cases hnl : newline ∈ data.data <;> simp [hnl, Nat.mul_add, Nat.add_assoc, Nat.add_comm]

/-- The audit log over a whole connection. An open log that holds whole lines stays open. It
gains two entries for each read that holds a command line, and only at its end, by whole
lines. `get_last_lines`, asked for as many lines as were added, returns exactly what was
added. -/
theorem processClientAudited_log {reads : List TCPServer.Received} {a a' : AuditLogger}
    {c : Bytes} (ha : a.isOpen = true) (hc : a.file = some c) (hwhole : WholeLines c)
    {w w' : World} {texts : List Bytes}
    (h : (processClientAudited env reads a).run w = .ok (texts, a') w') :
    a'.isOpen = true ∧ a'.entries = a.entries + 2 * reads.countP (fun d => newline ∈ d.data) ∧
      ∃ t, WholeLines t ∧ a'.file = some (c ++ t) ∧ getLastLines (readLines [] t).length a' = t := by
  obtain ⟨hopen, hentries, t, ht, hfile⟩ := processClientAudited_entries env ha hc h
  exact ⟨hopen, hentries, t, ht, hfile, getLastLines_of_append hfile hwhole ht⟩

end Entries

/-- An audit environment for concrete runs: every entry carries the same time, and every
open succeeds. -/
def AuditEnv.steady : AuditEnv where
  timestamp := fun _ => ascii "2026-11-09 10:00:00"
  timestamp_noNewline := fun _ => show newline ∉ ascii "2026-11-09 10:00:00" by decide
  opens := fun _ => true

open WireProxyProcess (WholeLines) in
theorem processClientAudited_log_whoami :
    ((⟨some [], true, 0, 0⟩ : AuditLogger).isOpen = true ∧
      (⟨some [], true, 0, 0⟩ : AuditLogger).file = some [] ∧ WholeLines [] ∧
      (processClientAudited AuditEnv.steady [⟨ascii "whoami:\n", by decide, by decide⟩]
          ⟨some [], true, 0, 0⟩).run (World.init Env.quiet) =
        .ok ([ascii "\x7b\"CMD\":\"whoami\",\"error\":null,\"result\":\x7b\"implementation\":\"C++\",\"version\":\"1.0.0\"\x7d\x7d\n"],
          ⟨some (ascii "[2026-11-09 10:00:00] [CMD] Command received: whoami:\n from tcp_client\n[2026-11-09 10:00:00] [SUCCESS] Command executed successfully: whoami:\n\n"),
            true, 0, 2⟩) (World.init Env.quiet)) ∧
    ((⟨some (ascii "[2026-11-09 10:00:00] [CMD] Command received: whoami:\n from tcp_client\n[2026-11-09 10:00:00] [SUCCESS] Command executed successfully: whoami:\n\n"),
        true, 0, 2⟩ : AuditLogger).isOpen = true ∧
      (⟨some (ascii "[2026-11-09 10:00:00] [CMD] Command received: whoami:\n from tcp_client\n[2026-11-09 10:00:00] [SUCCESS] Command executed successfully: whoami:\n\n"),
        true, 0, 2⟩ : AuditLogger).entries =
        (⟨some [], true, 0, 0⟩ : AuditLogger).entries +
          2 * ([⟨ascii "whoami:\n", by decide, by decide⟩] : List TCPServer.Received).countP
            (fun d => newline ∈ d.data) ∧
      ∃ t, WholeLines t ∧
        (⟨some (ascii "[2026-11-09 10:00:00] [CMD] Command received: whoami:\n from tcp_client\n[2026-11-09 10:00:00] [SUCCESS] Command executed successfully: whoami:\n\n"),
          true, 0, 2⟩ : AuditLogger).file = some ([] ++ t) ∧
        getLastLines (readLines [] t).length
          ⟨some (ascii "[2026-11-09 10:00:00] [CMD] Command received: whoami:\n from tcp_client\n[2026-11-09 10:00:00] [SUCCESS] Command executed successfully: whoami:\n\n"),
            true, 0, 2⟩ = t) := by
  refine ⟨⟨rfl, rfl, .inl rfl, ?run⟩, processClientAudited_log AuditEnv.steady rfl rfl (.inl rfl) ?run⟩
  rfl

end Wpmd
