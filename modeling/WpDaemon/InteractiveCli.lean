import WpDaemon.JsonParse
import WpDaemon.Requests
import WpDaemon.Audit
import WpDaemon.ArgParser

/-!
# The interactive client

`InteractiveCLI::execute_command` reads a line typed at the `wpd> ` prompt. It trims the line
of spaces, tabs, newlines and carriage returns, takes the first piece between spaces as the
command, and takes the trimmed rest after the line's first space as the argument. `status`,
`configs`, `start` and `stop` talk to the daemon through `DaemonClient::send_command`. It
adds a newline to the request, reads the reply with one `read` of at most 4095 bytes, and
cuts the text at its first NUL byte, as `std::string(buffer)` does. Then it parses the text
with nlohmann's parser.

Each of these commands is answered by the handler it is for, with the argument the user typed
(`request_reaches_handler`), as long as the line has no comma, since the daemon splits its
arguments at commas, and is short enough for the request to fit in one read of the worker,
which takes at most 4095 bytes. A reply that fits in one read comes back as the value the daemon built
(`sendCommand_reads_reply`). The client shows it as it would show that value
(`showReply_transparent`).

`print_welcome` asks for the state but prints it only when the reply has no `error` key.
Every reply of the daemon has one, so the banner never shows the state
(`welcome_never_shows_state`). `is_daemon_running` asks `whoami` and looks for `version` in
what one read returned. Against the daemon's reply this holds exactly when the read returned
at least the reply's first 70 bytes (`isDaemonRunning_whoami`).

`cmd_logs` runs the `std::deque` window of `get_last_lines` over the lines of `audit.log`.
It shows the last `n` lines, `n` being `std::stoul` of the argument, or 50 when there is
none or `stoul` throws (`cmdLogs_shows_last_lines`). A negative count wraps around 2^64, so
`logs -1` shows the whole log.

Not modelled: `cmd_daemonize` (it spawns the daemon), the texts of `print_welcome`'s banner
and of `cmd_help`, and the failures of the connect, the write and the read, whose
`last_error_` texts come from sockpp.
-/

namespace Wpmd

namespace InteractiveCLI

/-- The bytes of `" \t\n\r"`, which `trim` strips. -/
def isBlank (b : UInt8) : Bool := b == 32 || b == 9 || b == 10 || b == 13

/-- `InteractiveCLI::trim`: from the first byte not in `" \t\n\r"` to the last one, empty when
there is none. It has the shape of `CommandHandler::trim`, over more bytes. -/
def trim (str : Bytes) : Bytes :=
  ((str.dropWhile isBlank).reverse.dropWhile isBlank).reverse

/-- `while (std::getline(ss, part, delim))`: the pieces between the bytes `delim`, the last
one only when it has a byte. `part` holds what was read of the current piece. -/
def getlinePieces (delim : UInt8) (part : Bytes) : Bytes → List Bytes
  | [] => if part.isEmpty then [] else [part]
  | b :: s => if b = delim then part :: getlinePieces delim [] s
    else getlinePieces delim (part ++ [b]) s

/-- `InteractiveCLI::split`: the pieces that are not empty. -/
def split (str : Bytes) (delim : UInt8) : List Bytes :=
  (getlinePieces delim [] str).filter (!·.isEmpty)

/-- What `execute_command` does with a line. -/
inductive Action where
  /-- A line of blanks: nothing. -/
  | blank
  | quit
  | status
  | configs
  /-- `start` without an argument prints its usage. -/
  | startUsage
  | start (config : Bytes)
  | stop
  | logs (args : Bytes)
  | daemonize
  | help
  | unknown (cmd : Bytes)
  deriving DecidableEq, Repr

/-- The `if`/`else if` chain of `execute_command` on the command. -/
def action (cmd args : Bytes) : Action :=
  if cmd = ascii "quit" ∨ cmd = ascii "exit" then .quit
  else if cmd = ascii "status" then .status
  else if cmd = ascii "configs" then .configs
  else if cmd = ascii "start" then (if args.isEmpty then .startUsage else .start args)
  else if cmd = ascii "stop" then .stop
  else if cmd = ascii "logs" then .logs args
  else if cmd = ascii "daemonize" then .daemonize
  else if cmd = ascii "help" then .help
  else .unknown cmd

/-- The daemon command each client command is for, as `cmd_help` describes them: the name
the daemon's replies carry, and its handler. -/
def Action.handler : Action → Option (Bytes × Cmd Json)
  | .status => some (ascii "state", CommandHandler.handleState)
  | .configs => some (ascii "available_confs", CommandHandler.handleAvailableConfs)
  | .start config => some (ascii "spin_up", CommandHandler.handleSpinUp config)
  | .stop => some (ascii "spin_down", CommandHandler.handleSpinDown)
  | _ => none

end InteractiveCLI

namespace DaemonClient

end DaemonClient

namespace InteractiveCLI

section Trim

end Trim

end InteractiveCLI

namespace DaemonClient

end DaemonClient

namespace InteractiveCLI

end InteractiveCLI

/-! ## Reading a reply -/

/-- `j.is_null()`. -/
def Json.isNull : Json → Bool
  | .null => true
  | _ => false

/-- `j[key]` on a non-const `json`: the member, or `null` when the key is missing (the
operator inserts it) or when `j` is `null` (the operator makes it an object); `type_error`
305 on anything else. The client never reads back what the operator inserts. -/
def Json.index (key : Bytes) : Json → Option Json
  | .object fields => some ((fields.lookup key).getD .null)
  | .null => some .null
  | _ => none

/-- The conversion to `bool` of a condition, `get<bool>()`: `type_error` 302 on anything but
a boolean. -/
def Json.toBool : Json → Option Bool
  | .boolean b => some b
  | _ => none

/-- `int count = j`, `get<int>()`: a number cut to 32 bits, a boolean as 0 or 1, and
`type_error` 302 on anything else. -/
def Json.toInt : Json → Option Int
  | .number n => some (n.bmod (2 ^ 32))
  | .boolean b => some (if b then 1 else 0)
  | _ => none

/-- What a range-`for` over a value visits: an array's elements, an object's values in key
order, nothing for `null`, and any other value itself, once. -/
def Json.elements : Json → List Json
  | .array items => items
  | .object fields => (fields.insertionSort (·.1 ≤ ·.1)).map (·.2)
  | .null => []
  | j => [j]

/-- Every byte of a text is a space or above: no control byte, so no NUL. -/
def Printable (t : Bytes) : Prop := ∀ c ∈ t, 32 ≤ c.toNat

instance : DecidablePred Printable := fun t => inferInstanceAs (Decidable (∀ c ∈ t, 32 ≤ c.toNat))

namespace DaemonClient

/-- What `send_command`'s one `read` into its 4096-byte buffer returns of a reply line that
has arrived whole: at most 4095 bytes. -/
def receive (line : Bytes) : Bytes := line.take 4095

/-- What `send_command` returns once its read returned `received`, with the `last_error_` it
leaves, `lastError` being the one before. An empty read gives `nullptr` (JSON `null`) and
`No response from daemon`. Otherwise the text up to the first NUL byte is parsed, and a parse
error gives `nullptr` with the parser's message after `Failed to parse response: `. -/
def readResponse (lastError received : Bytes) : Json × Bytes :=
  if received.isEmpty then (.null, ascii "No response from daemon")
  else match Json.parse (received.takeWhile (· != 0)) with
    | some response => (response, lastError)
    | none => (.null, ascii "Failed to parse response: ")

end DaemonClient

/-- What the client writes to `std::cout`. An exception that nothing in the client catches,
the `type_error` of a JSON access or conversion, ends it with what it wrote so far. -/
abbrev Console := EStateM Unit Bytes

namespace Console

/-- `std::cout << text`. -/
def print (text : Bytes) : Console Unit := modify (· ++ text)

/-- An access or a conversion of nlohmann's, which throws where the model has `none`. -/
def orThrow {α : Type} : Option α → Console α
  | some a => pure a
  | none => throw ()

/-- `std::cout << label << value << std::endl`: the label, then the value's `dump()`. -/
def printField (label : Bytes) (value : Option Json) : Console Unit := do
  print label
  print (← orThrow (← orThrow value).dump)
  print [newline]

end Console

namespace InteractiveCLI

open Console

/-- `response.contains("error") && !response["error"].is_null()`, and then the error. -/
def errorOf (response : Json) : Option Json :=
  (response.member (ascii "error")).filter (!·.isNull)

/-- What `cmd_status`, `cmd_configs`, `cmd_start` and `cmd_stop` share after `send_command`:
`Error: ` with `last_error_` for `nullptr`, `Error: ` with the reply's `error` when it has one
that is not null, and otherwise `display` of `response["result"]`. -/
def withResult (response : Json) (lastError : Bytes) (display : Json → Console Unit) :
    Console Unit :=
  if response.isNull then print (ascii "Error: " ++ lastError ++ [newline])
  else match errorOf response with
    | some error => printField (ascii "Error: ") (some error)
    | none => do display (← orThrow (response.index (ascii "result")))

/-- What `cmd_status` prints of a result. Its second read of `result["running"]` gives what
the first gave. -/
def showStatus (result : Json) : Console Unit := do
  print (ascii "Daemon Status:" ++ [newline])
  print (ascii "  Running: ")
  let running ← orThrow (← orThrow (result.index (ascii "running"))).toBool
  print (ascii (if running then "Yes" else "No") ++ [newline])
  if running then
    printField (ascii "  Config: ") (result.index (ascii "config"))
    printField (ascii "  PID: ") (result.index (ascii "pid"))
    if !(← orThrow (result.index (ascii "log_file"))).isNull then
      printField (ascii "  Log file: ") (result.index (ascii "log_file"))

/-- What `cmd_configs` prints of a result. -/
def showConfigs (result : Json) : Console Unit := do
  let count ← orThrow (← orThrow (result.index (ascii "count"))).toInt
  print (ascii "Available configurations (" ++ decimal count ++ ascii "):" ++ [newline])
  if count = 0 then print (ascii "  (none)" ++ [newline])
  else (← orThrow (result.index (ascii "configs"))).elements.forM fun config =>
    printField (ascii "  - ") (some config)

/-- What `cmd_start` prints of a result. -/
def showStarted (result : Json) : Console Unit := do
  print (ascii "Success! WireProxy is running." ++ [newline])
  printField (ascii "  Config: ") (result.index (ascii "config"))
  printField (ascii "  PID: ") (result.index (ascii "pid"))
  printField (ascii "  Log: ") (result.index (ascii "log_file"))

/-- What `cmd_stop` prints of a result. -/
def showStopped (result : Json) : Console Unit := do
  print (ascii "Success! WireProxy stopped." ++ [newline])
  printField (ascii "  Previous config: ") (result.index (ascii "previous_config"))
  printField (ascii "  Log file: ") (result.index (ascii "log_file"))

/-- `InteractiveCLI::cmd_status`: `daemonRunning` is what `is_daemon_running` found, and
`response` and `lastError` are what `send_command("state:")` returned and left. -/
def cmdStatus (daemonRunning : Bool) (response : Json) (lastError : Bytes) : Console Unit :=
  if daemonRunning then withResult response lastError showStatus
  else print (ascii "Daemon is not running!" ++ [newline])

/-- `InteractiveCLI::cmd_configs`, after `send_command("available_confs:")`. -/
def cmdConfigs (daemonRunning : Bool) (response : Json) (lastError : Bytes) : Console Unit :=
  if daemonRunning then withResult response lastError showConfigs
  else print (ascii "Daemon is not running!" ++ [newline])

/-- `InteractiveCLI::cmd_start`, after `send_command("spin_up:" + config)`. -/
def cmdStart (daemonRunning : Bool) (config : Bytes) (response : Json) (lastError : Bytes) :
    Console Unit :=
  if daemonRunning then do
    print (ascii "Starting WireProxy with config: " ++ config ++ ascii "..." ++ [newline])
    withResult response lastError showStarted
  else print (ascii "Daemon is not running! Use 'daemonize' to start it." ++ [newline])

/-- `InteractiveCLI::cmd_stop`, after `send_command("spin_down:")`. -/
def cmdStop (daemonRunning : Bool) (response : Json) (lastError : Bytes) : Console Unit :=
  if daemonRunning then do
    print (ascii "Stopping WireProxy..." ++ [newline])
    withResult response lastError showStopped
  else print (ascii "Daemon is not running!" ++ [newline])

/-- What `print_welcome` prints of the state after `Connected to daemon on port 23888`,
`response` being what `send_command("state:")` returned: the state only for a response that
is not `nullptr` and has no `error` key. -/
def welcomeStatus (response : Json) : Console Unit :=
  if !response.isNull && (response.member (ascii "error")).isNone then do
    let result ← orThrow (response.index (ascii "result"))
    if (← orThrow (← orThrow (result.index (ascii "running"))).toBool) then
      printField (ascii "Status: Running with config: ") (result.index (ascii "config"))
    else print (ascii "Status: Idle (no process running)" ++ [newline])
  else pure ()

end InteractiveCLI

section Printable

/-- Two strings are printable exactly when each is. -/
@[simp] theorem printable_append {x y : Bytes} : Printable (x ++ y) ↔ Printable x ∧ Printable y :=
  List.forall_mem_append

/-- A string is printable when its first byte is and the rest is. -/
@[simp] theorem printable_cons {c : UInt8} {t : Bytes} :
    Printable (c :: t) ↔ 32 ≤ c.toNat ∧ Printable t :=
  List.forall_mem_cons

/-- `dump_escaped` writes every byte of a valid string as printable bytes. -/
theorem printable_escapeByte (b : UInt8) : Printable (escapeByte b) := by
  by_cases hctl : b.toNat < 0x20
  · exact Lexer.byte_of_forall_lt (P := fun b => Printable (escapeByte b)) (by decide) hctl
  by_cases h34 : b = 34
  · subst h34; decide
  by_cases h92 : b = 92
  · subst h92; decide
  rw [Lexer.escapeByte_of_plain h34 h92 (by omega)]
  simpa [Printable] using (by omega : 32 ≤ b.toNat)

/-- A serialized string is printable: quotes around escaped bytes. -/
theorem printable_dumpString {s t : Bytes} (h : dumpString s = some t) : Printable t := by
  unfold dumpString at h
  split at h
  · cases h
    simp only [printable_cons, printable_append]
    refine ⟨⟨by decide, fun c hc => ?_⟩, by decide⟩
    obtain ⟨l, hl, hcl⟩ := List.mem_flatten.mp hc
    obtain ⟨b, -, rfl⟩ := List.mem_map.mp hl
    exact printable_escapeByte b c hcl
  · cases h

/-- A number is written in digits and a `-`. -/
theorem printable_decimal (n : Int) : Printable (decimal n) := fun c hc => by
  rcases decimal_digits hc with rfl | ⟨h, -⟩
  · decide
  · omega

/-- Printable parts joined by a printable separator are printable. -/
theorem printable_intercalate {sep : Bytes} (hsep : Printable sep) :
    ∀ {parts : List Bytes}, (∀ p ∈ parts, Printable p) → Printable (sep.intercalate parts)
  | [], _ => by simp [Printable, List.intercalate]
  | [p], h => by rw [intercalate_single]; exact h p (List.mem_singleton_self p)
  | p :: q :: ps, h => by
    rw [intercalate_cons_cons, printable_append, printable_append]
    exact ⟨⟨h p (List.mem_cons_self p _), hsep⟩,
      printable_intercalate hsep fun x hx => h x (List.mem_cons_of_mem p hx)⟩

mutual

/-- `dump()` writes no control byte, and so no NUL. -/
theorem printable_dump : ∀ (j : Json) {t : Bytes}, j.dump = some t → Printable t
  | .null, _, h => by cases h; decide
  | .boolean b, _, h => by cases h; cases b <;> decide
  | .number n, _, h => by cases h; exact printable_decimal n
  | .string _, _, h => printable_dumpString h
  | .array items, _, h => by
    simp only [Json.dump, Option.map_eq_some'] at h
    obtain ⟨parts, hparts, rfl⟩ := h
    simp only [printable_append]
    exact ⟨⟨by decide, printable_intercalate (by decide) (printable_dumpItems items hparts)⟩,
      by decide⟩
  | .object fields, _, h => by
    simp only [Json.dump, Option.map_eq_some'] at h
    obtain ⟨members, hmembers, rfl⟩ := h
    simp only [printable_append]
    refine ⟨⟨by decide, printable_intercalate (by decide) fun p hp => ?_⟩, by decide⟩
    obtain ⟨m, hm, rfl⟩ := List.mem_map.mp hp
    exact printable_dumpFields fields hmembers m ((List.mem_insertionSort _).mp hm)

/-- The serialized items of an array are printable. -/
theorem printable_dumpItems : ∀ (items : List Json) {parts : List Bytes},
    Json.dump.dumpItems items = some parts → ∀ p ∈ parts, Printable p
  | [], _, h, p, hp => by cases h; simp at hp
  | j :: js, _, h, p, hp => by
    simp only [Json.dump.dumpItems, Option.bind_eq_some, Option.map_eq_some'] at h
    obtain ⟨a, ha, ps, hps, rfl⟩ := h
    rcases List.mem_cons.mp hp with rfl | hp
    · exact printable_dump j ha
    · exact printable_dumpItems js hps p hp

/-- The serialized values of an object are printable. -/
theorem printable_dumpFields : ∀ (fields : List (Bytes × Json)) {members : List (Bytes × Bytes)},
    Json.dump.dumpFields fields = some members → ∀ m ∈ members, Printable m.2
  | [], _, h, m, hm => by cases h; simp at hm
  | (k, j) :: fs, _, h, m, hm => by
    simp only [Json.dump.dumpFields, Option.bind_eq_some, Option.map_eq_some'] at h
    obtain ⟨key, hkey, value, hvalue, ms, hms, rfl⟩ := h
    rcases List.mem_cons.mp hm with rfl | hm
    · simp only [printable_append, printable_cons]
      exact ⟨printable_dumpString hkey, by decide, printable_dump j hvalue⟩
    · exact printable_dumpFields fs hms m hm

end

end Printable

namespace DaemonClient

/-- A reply line that fits in one read comes back from `send_command` as the value `parse`
builds of the reply, and `last_error_` is left as it was. -/
theorem sendCommand_reads_reply {j : Json} {t : Bytes} (hdump : j.dump = some t)
    (hfit : j.numbersFit = true) (hlen : t.length < 4095) (lastError : Bytes) :
    readResponse lastError (receive (t ++ [newline])) = (j.canon, lastError) := by
  have hwhole : receive (t ++ [newline]) = t ++ [newline] :=
    List.take_of_length_le (by simp; omega)
  have hnul : (t ++ [newline]).takeWhile (· != 0) = t ++ [newline] :=
    List.takeWhile_eq_self_iff.mpr fun c hc => by
      rcases List.mem_append.mp hc with hc | hc
      · have := printable_dump j hdump c hc
        exact bne_iff_ne.mpr fun h => by subst h; simp at this
      · simp at hc; subst hc; decide
  simp [readResponse, hwhole, hnul, Json.parse_dump hdump hfit]

end DaemonClient

section Canon

open Json.canon Json.keysDistinct

/-- Reading back an array reads back each item. -/
theorem canonItems_eq_map (items : List Json) : canonItems items = items.map Json.canon := by
  induction items with
  | nil => rfl
  | cons j js ih => simp [canonItems, ih]

/-- Reading back the members of an object reads back each value. -/
theorem canonFields_eq_map (fields : List (Bytes × Json)) :
    canonFields fields = fields.map fun p => (p.1, p.2.canon) := by
  induction fields with
  | nil => rfl
  | cons f fs ih => obtain ⟨k, j⟩ := f; simp [canonFields, ih]

/-- An array has no key twice when none of its items has. -/
theorem distinctItems_iff (items : List Json) :
    distinctItems items = true ↔ ∀ j ∈ items, j.keysDistinct = true := by
  induction items with
  | nil => simp [distinctItems]
  | cons j js ih => simp [distinctItems, ih]

/-- The members of an object have no key twice when none of their values has. -/
theorem distinctFields_iff (fields : List (Bytes × Json)) :
    distinctFields fields = true ↔ ∀ p ∈ fields, p.2.keysDistinct = true := by
  induction fields with
  | nil => simp [distinctFields]
  | cons f fs ih => obtain ⟨k, j⟩ := f; simp [distinctFields, ih]

/-- Looking a key up in mapped values maps the value looked up. -/
theorem lookup_map_snd {β γ : Type} (f : β → γ) (k : Bytes) (l : List (Bytes × β)) :
    (l.map fun p => (p.1, f p.2)).lookup k = (l.lookup k).map f := by
  induction l with
  | nil => rfl
  | cons p l ih => obtain ⟨k', v⟩ := p; cases h : k == k' <;> simp [List.lookup_cons, h, ih]

/-- With no key twice, the order of the members does not change what a key finds. -/
theorem lookup_of_perm {β : Type} {k : Bytes} {l₁ l₂ : List (Bytes × β)} (hp : l₁.Perm l₂)
    (hn : (l₁.map (·.1)).Nodup) : l₁.lookup k = l₂.lookup k := by
  induction hp with
  | nil => rfl
  | cons x _ ih =>
    obtain ⟨k', v⟩ := x
    simp only [List.lookup_cons, ih (List.nodup_cons.mp hn).2]
  | swap x y l =>
    obtain ⟨kx, vx⟩ := x
    obtain ⟨ky, vy⟩ := y
    have hxy : ky ≠ kx := fun h => (List.nodup_cons.mp hn).1 (by simp [h])
    by_cases hy : k = ky
    · subst hy; simp [List.lookup_cons, beq_false_of_ne hxy]
    · simp [List.lookup_cons, beq_false_of_ne hy]
  | trans h₁ _ ih₁ ih₂ => rw [ih₁ hn, ih₂ ((h₁.map _).nodup_iff.mp hn)]

/-- An object with no key twice is read back with each member's value read back. -/
theorem lookup_canon_object {fields : List (Bytes × Json)} (hn : (fields.map (·.1)).Nodup)
    (k : Bytes) :
    ((canonFields fields).insertionSort (·.1 ≤ ·.1)).lookup k = (fields.lookup k).map Json.canon := by
  rw [← lookup_of_perm (List.perm_insertionSort _ _).symm (by rwa [canonFields_keys]),
    canonFields_eq_map, lookup_map_snd]

/-- A member of an object with no key twice reads back as the member read back. -/
theorem member_canon_object {fields : List (Bytes × Json)} (hn : (fields.map (·.1)).Nodup)
    (k : Bytes) : (Json.object fields).canon.member k = ((Json.object fields).member k).map Json.canon := by
  rw [canon_object_of_nodup hn]
  exact lookup_canon_object hn k

/-- A member of a value with no key twice reads back as the member read back. -/
theorem member_canon {j : Json} (hj : j.keysDistinct = true) (k : Bytes) :
    j.canon.member k = (j.member k).map Json.canon := by
  cases j with
  | object fields =>
    simp only [Json.keysDistinct, Bool.and_eq_true, decide_eq_true_eq] at hj
    exact member_canon_object hj.1 k
  | array items => rfl
  | _ => rfl

/-- `operator[]` on a value with no key twice reads back as its result read back. -/
theorem index_canon {j : Json} (hj : j.keysDistinct = true) (k : Bytes) :
    j.canon.index k = (j.index k).map Json.canon := by
  cases j with
  | object fields =>
    simp only [Json.keysDistinct, Bool.and_eq_true, decide_eq_true_eq] at hj
    rw [canon_object_of_nodup hj.1]
    simp only [Json.index, lookup_canon_object hj.1 k, Option.map_some']
    cases fields.lookup k <;> rfl
  | array items => rfl
  | _ => rfl

/-- Reading back keeps whether a value is null. -/
@[simp] theorem isNull_canon (j : Json) : j.canon.isNull = j.isNull := by
  cases j <;> rfl

/-- Reading back keeps a boolean. -/
@[simp] theorem toBool_canon (j : Json) : j.canon.toBool = j.toBool := by
  cases j <;> rfl

/-- Reading back keeps a number. -/
@[simp] theorem toInt_canon (j : Json) : j.canon.toInt = j.toInt := by
  cases j <;> rfl

/-- The elements a loop visits read back as the elements read back. -/
theorem elements_canon {j : Json} (hj : j.keysDistinct = true) :
    j.canon.elements = j.elements.map Json.canon := by
  cases j with
  | array items => exact canonItems_eq_map items
  | object fields =>
    simp only [Json.keysDistinct, Bool.and_eq_true, decide_eq_true_eq] at hj
    rw [canon_object_of_nodup hj.1]
    simp only [Json.elements]
    rw [insertionSort_idem, canonFields_eq_map,
      ← List.map_insertionSort (·.1 ≤ ·.1) (·.1 ≤ ·.1) (fun p : Bytes × Json => (p.1, p.2.canon)) fields
        fun _ _ _ _ => Iff.rfl]
    simp [Function.comp_def]
  | _ => rfl

/-- A member of an object with no key twice has no key twice. -/
theorem keysDistinct_of_lookup {fields : List (Bytes × Json)} (h : distinctFields fields = true)
    {k : Bytes} {x : Json} (hx : fields.lookup k = some x) : x.keysDistinct = true := by
  obtain ⟨l₁, l₂, rfl, -⟩ := List.lookup_eq_some_iff.mp hx
  exact (distinctFields_iff _).mp h (k, x) (by simp)

/-- A member of a value with no key twice has no key twice. -/
theorem keysDistinct_of_member {j x : Json} (hj : j.keysDistinct = true) {k : Bytes}
    (hx : j.member k = some x) : x.keysDistinct = true := by
  cases j with
  | object fields =>
    simp only [Json.keysDistinct, Bool.and_eq_true] at hj
    exact keysDistinct_of_lookup hj.2 hx
  | _ => cases hx

/-- What `operator[]` returns on a value with no key twice has no key twice. -/
theorem keysDistinct_of_index {j x : Json} (hj : j.keysDistinct = true) {k : Bytes}
    (hx : j.index k = some x) : x.keysDistinct = true := by
  cases j with
  | object fields =>
    simp only [Json.keysDistinct, Bool.and_eq_true] at hj
    simp only [Json.index, Option.some.injEq] at hx
    subst hx
    cases h : fields.lookup k
    · rfl
    · exact keysDistinct_of_lookup hj.2 h
  | null => cases hx; rfl
  | _ => cases hx

/-- An element of a value with no key twice has no key twice. -/
theorem keysDistinct_of_elements {j x : Json} (hj : j.keysDistinct = true) (hx : x ∈ j.elements) :
    x.keysDistinct = true := by
  cases j with
  | array items => exact (distinctItems_iff items).mp hj x hx
  | object fields =>
    simp only [Json.keysDistinct, Bool.and_eq_true] at hj
    obtain ⟨p, hp, rfl⟩ := List.mem_map.mp hx
    exact (distinctFields_iff fields).mp hj.2 p ((List.mem_insertionSort _).mp hp)
  | null => cases hx
  | _ => simp only [Json.elements, List.mem_singleton] at hx; subst hx; rfl

/-- The `error` of a reply reads back as the reply's `error` read back. -/
theorem errorOf_canon {j : Json} (hj : j.keysDistinct = true) :
    InteractiveCLI.errorOf j.canon = (InteractiveCLI.errorOf j).map Json.canon := by
  simp only [InteractiveCLI.errorOf, member_canon hj]
  cases j.member (ascii "error") with
  | none => rfl
  | some e => cases h : e.isNull <;> simp [Option.filter_some, h]

/-- The `error` of a reply with no key twice has no key twice. -/
theorem keysDistinct_of_errorOf {j e : Json} (hj : j.keysDistinct = true)
    (he : InteractiveCLI.errorOf j = some e) : e.keysDistinct = true :=
  keysDistinct_of_member hj (Option.filter_eq_some.mp he).1

end Canon

namespace Console

/-- A mapped optional value feeds the continuation the mapped value. -/
theorem orThrow_map_bind {α β γ : Type} (f : α → β) (o : Option α) (k : β → Console γ) :
    orThrow (o.map f) >>= k = orThrow o >>= fun a => k (f a) := by
  cases o <;> rfl

/-- Continuations that agree on the value present agree. -/
theorem orThrow_bind_congr {α β : Type} {o : Option α} {k k' : α → Console β}
    (h : ∀ a, o = some a → k a = k' a) : orThrow o >>= k = orThrow o >>= k' := by
  cases o with
  | none => rfl
  | some a => exact h a rfl

/-- A value read back prints as the value does. -/
theorem printField_canon (label : Bytes) {o : Option Json}
    (h : ∀ x, o = some x → x.keysDistinct = true) :
    printField label (o.map Json.canon) = printField label o := by
  cases o with
  | none => rfl
  | some x => simp [printField, orThrow, dump_canon x (h x rfl)]

/-- A field of a value with no key twice prints as it does read back. -/
theorem printField_index_canon (label : Bytes) {j : Json} (hj : j.keysDistinct = true) (k : Bytes) :
    printField label (j.canon.index k) = printField label (j.index k) := by
  rw [index_canon hj, printField_canon label fun x hx => keysDistinct_of_index hj hx]

/-- A list of values with no key twice prints as it does read back. -/
theorem forM_printField_canon (label : Bytes) :
    ∀ {l : List Json}, (∀ x ∈ l, x.keysDistinct = true) →
      (l.map Json.canon).forM (fun c => printField label (some c)) =
        l.forM fun c => printField label (some c)
  | [], _ => rfl
  | x :: l, h => by
    simp only [List.map_cons, List.forM_cons']
    rw [← Option.map_some', printField_canon label fun y hy => Option.some.inj hy ▸ h x (List.mem_cons_self x l),
      forM_printField_canon label fun y hy => h y (List.mem_cons_of_mem x hy)]

end Console

namespace InteractiveCLI

open Console

section Transparency

variable {result : Json} (h : result.keysDistinct = true)
include h

/-- The status display shows a result read back as it shows the result. -/
theorem showStatus_canon : showStatus result.canon = showStatus result := by
  simp only [showStatus, printField_index_canon _ h]
  simp only [index_canon h, orThrow_map_bind, toBool_canon, isNull_canon]

/-- The configuration list shows a result read back as it shows the result. -/
theorem showConfigs_canon : showConfigs result.canon = showConfigs result := by
  simp only [showConfigs, index_canon h, orThrow_map_bind, toInt_canon]
  refine orThrow_bind_congr fun c _ => orThrow_bind_congr fun count _ => ?_
  congr 1
  funext _
  split
  · rfl
  · exact orThrow_bind_congr fun x hx => by
      rw [elements_canon (keysDistinct_of_index h hx),
        forM_printField_canon _ fun y hy => keysDistinct_of_elements (keysDistinct_of_index h hx) hy]

/-- The start display shows a result read back as it shows the result. -/
theorem showStarted_canon : showStarted result.canon = showStarted result := by
  simp only [showStarted, printField_index_canon _ h]

/-- The stop display shows a result read back as it shows the result. -/
theorem showStopped_canon : showStopped result.canon = showStopped result := by
  simp only [showStopped, printField_index_canon _ h]

omit h in
/-- A reply read back is handled as the reply, when each display is. -/
theorem withResult_canon {response : Json} (h : response.keysDistinct = true) (lastError : Bytes)
    {display : Json → Console Unit} (hd : ∀ x, x.keysDistinct = true → display x.canon = display x) :
    withResult response.canon lastError display = withResult response lastError display := by
  unfold withResult
  rw [isNull_canon, errorOf_canon h]
  split
  · rfl
  · cases he : errorOf response with
    | some e => exact printField_canon _ fun x hx => Option.some.inj hx ▸ keysDistinct_of_errorOf h he
    | none =>
      simp only [Option.map_none']
      rw [index_canon h, orThrow_map_bind]
      exact orThrow_bind_congr fun x hx => hd x (keysDistinct_of_index h hx)

end Transparency

/-- A reply that fits in one read is shown as the value the daemon built is shown. -/
theorem showReply_transparent {j : Json} {t : Bytes} (hdump : j.dump = some t)
    (hfit : j.numbersFit = true) (hkeys : j.keysDistinct = true) (hlen : t.length < 4095)
    (daemonRunning : Bool) (lastError : Bytes) :
    let r := DaemonClient.readResponse lastError (DaemonClient.receive (t ++ [newline]))
    cmdStatus daemonRunning r.1 r.2 = cmdStatus daemonRunning j lastError ∧
      cmdConfigs daemonRunning r.1 r.2 = cmdConfigs daemonRunning j lastError ∧
      (∀ config, cmdStart daemonRunning config r.1 r.2 = cmdStart daemonRunning config j lastError) ∧
      cmdStop daemonRunning r.1 r.2 = cmdStop daemonRunning j lastError := by
  simp only [DaemonClient.sendCommand_reads_reply hdump hfit hlen]
  refine ⟨?_, ?_, fun config => ?_, ?_⟩
  · simp only [cmdStatus, withResult_canon hkeys lastError fun _ hx => showStatus_canon hx]
  · simp only [cmdConfigs, withResult_canon hkeys lastError fun _ hx => showConfigs_canon hx]
  · simp only [cmdStart, withResult_canon hkeys lastError fun _ hx => showStarted_canon hx]
  · simp only [cmdStop, withResult_canon hkeys lastError fun _ hx => showStopped_canon hx]

/-- The reply to a started `wg.conf` session. -/
theorem showReply_transparent_spinUp :
    ((CommandHandler.spinUpReply (ascii "wg.conf") 2 (ascii "/tmp/wg.log")).dump =
        some (ascii "\x7b\"CMD\":\"spin_up\",\"error\":null,\"result\":\x7b\"config\":\"wg.conf\",\"log_file\":\"/tmp/wg.log\",\"pid\":2,\"status\":\"running\"\x7d\x7d") ∧
      (CommandHandler.spinUpReply (ascii "wg.conf") 2 (ascii "/tmp/wg.log")).numbersFit = true ∧
      (CommandHandler.spinUpReply (ascii "wg.conf") 2 (ascii "/tmp/wg.log")).keysDistinct = true ∧
      (ascii "\x7b\"CMD\":\"spin_up\",\"error\":null,\"result\":\x7b\"config\":\"wg.conf\",\"log_file\":\"/tmp/wg.log\",\"pid\":2,\"status\":\"running\"\x7d\x7d").length < 4095) ∧
    let r := DaemonClient.readResponse [] (DaemonClient.receive
      (ascii "\x7b\"CMD\":\"spin_up\",\"error\":null,\"result\":\x7b\"config\":\"wg.conf\",\"log_file\":\"/tmp/wg.log\",\"pid\":2,\"status\":\"running\"\x7d\x7d" ++ [newline]))
    let j := CommandHandler.spinUpReply (ascii "wg.conf") 2 (ascii "/tmp/wg.log")
    cmdStatus true r.1 r.2 = cmdStatus true j [] ∧ cmdConfigs true r.1 r.2 = cmdConfigs true j [] ∧
      (∀ config, cmdStart true config r.1 r.2 = cmdStart true config j []) ∧
      cmdStop true r.1 r.2 = cmdStop true j [] :=
  ⟨⟨rfl, rfl, rfl, by decide⟩, showReply_transparent (by rfl) (by rfl) (by rfl) (by decide) true []⟩

/-- The banner never shows the state: every reply has an `error` key. -/
theorem welcome_never_shows_state {cmd : Bytes} {r : Json} (hr : ReplySchema cmd r) {t : Bytes}
    (hdump : r.dump = some t) (hfit : r.numbersFit = true) (hlen : t.length < 4095)
    (lastError : Bytes) :
    welcomeStatus (DaemonClient.readResponse lastError (DaemonClient.receive (t ++ [newline]))).1 =
      pure () := by
  rw [DaemonClient.sendCommand_reads_reply hdump hfit hlen]
  obtain ⟨result, error, rfl, -⟩ := hr
  have hn : ([(ascii "CMD", Json.string cmd), (ascii "result", result),
      (ascii "error", error)].map (·.1)).Nodup := by simp only [List.map_cons, List.map_nil]; decide
  have hm : (Json.object [(ascii "CMD", Json.string cmd), (ascii "result", result),
      (ascii "error", error)]).member (ascii "error") = some error := rfl
  rw [welcomeStatus, member_canon_object hn, hm]
  rfl

/-- The reply to `state` with no session. -/
theorem welcome_never_shows_state_stopped :
    (ReplySchema (ascii "state") (CommandHandler.stoppedStateReply []) ∧
      (CommandHandler.stoppedStateReply []).dump =
        some (ascii "\x7b\"CMD\":\"state\",\"error\":null,\"result\":\x7b\"config\":null,\"log_file\":null,\"pid\":null,\"running\":false\x7d\x7d") ∧
      (CommandHandler.stoppedStateReply []).numbersFit = true ∧
      (ascii "\x7b\"CMD\":\"state\",\"error\":null,\"result\":\x7b\"config\":null,\"log_file\":null,\"pid\":null,\"running\":false\x7d\x7d").length < 4095) ∧
    welcomeStatus (DaemonClient.readResponse [] (DaemonClient.receive
      (ascii "\x7b\"CMD\":\"state\",\"error\":null,\"result\":\x7b\"config\":null,\"log_file\":null,\"pid\":null,\"running\":false\x7d\x7d" ++ [newline]))).1 = pure () :=
  ⟨⟨resultReply_schema _ _, rfl, rfl, by decide⟩,
    welcome_never_shows_state (r := CommandHandler.stoppedStateReply []) (resultReply_schema _ _)
      (by rfl) (by rfl) (by decide) []⟩

/-! ## The audit log -/

/-- `std::stoul`: `strtoul` in base 10 reads as `strtol` does. A negative number is negated
modulo 2^64, `unsigned long` being 64 bits wide. `stoul` throws when there is no digit or the
magnitude passes `ULONG_MAX`; `none` is the throw. -/
def stoul (s : Bytes) : Option Nat :=
  let (negative, rest) := ArgParser.readSign (s.dropWhile ArgParser.isSpace)
  let digits := rest.takeWhile ArgParser.isDigit
  if digits.isEmpty then none
  else if 2 ^ 64 ≤ digitsValue digits then none
  else some (if negative then (2 ^ 64 - digitsValue digits) % 2 ^ 64 else digitsValue digits)

/-- The number of lines `cmd_logs` shows: `std::stoul(args)` for an argument on which it does
not throw, 50 otherwise. -/
def logsCount (args : Bytes) : Nat :=
  if args.isEmpty then 50 else (stoul args).getD 50

/-- `InteractiveCLI::cmd_logs`. `auditLog` is `audit.log` as it stands: `none` when it does
not exist, `some none` when it exists but does not open. The lines go through the same
`std::deque` window as in `AuditLogger::get_last_lines`. -/
def cmdLogs (args : Bytes) (auditLog : Option (Option Bytes)) : Console Unit :=
  match auditLog with
  | none => print (ascii "No audit log found." ++ [newline])
  | some none => print (ascii "Failed to open audit log." ++ [newline])
  | some (some content) => do
    let lines :=
      (AuditLogger.readLines [] content).foldl (AuditLogger.windowPush (logsCount args)) []
    print (ascii "Last " ++ decimal lines.length ++ ascii " lines of audit log:" ++ [newline])
    print (ascii "----------------------------------------" ++ [newline])
    lines.forM fun l => print (l ++ [newline])

/-- `print` appends its text to the output. -/
@[simp] theorem run_print (text out : Bytes) : (print text).run out = .ok () (out ++ text) := rfl

/-- What follows a `print` runs after its text. -/
@[simp] theorem run_print_bind {α : Type} (text out : Bytes) (f : Unit → Console α) :
    (print text >>= f).run out = (f ()).run (out ++ text) := rfl

/-- Printing lines one by one prints each with its newline, in order. -/
theorem forM_print :
    ∀ (lines : List Bytes) (out : Bytes), (lines.forM fun l => print (l ++ [newline])).run out =
      .ok () (out ++ (lines.map (· ++ [newline])).flatten)
  | [], out => by simp; rfl
  | l :: rest, out => by
    simp only [List.forM_cons', run_print_bind, forM_print rest]
    simp

/-- `logs` prints the count, a rule and the last lines of the audit log it asked for. -/
theorem cmdLogs_shows_last_lines (args content out : Bytes) :
    let lines := AuditLogger.readLines [] content
    let shown := lines.drop (lines.length - logsCount args)
    (cmdLogs args (some (some content))).run out = .ok ()
      (out ++ (ascii "Last " ++ decimal shown.length ++ ascii " lines of audit log:" ++ [newline]) ++
        (ascii "----------------------------------------" ++ [newline]) ++
        (shown.map (· ++ [newline])).flatten) := by
  have hwin := foldl_windowPush (logsCount args) (AuditLogger.readLines [] content) []
  simp only [List.nil_append, List.length_nil, Nat.zero_sub, List.drop_zero] at hwin
  simp only [cmdLogs, hwin, run_print_bind, forM_print, List.append_assoc]

end InteractiveCLI

namespace DaemonClient

/-- `DaemonClient::is_daemon_running` once it has sent `whoami:\n`: `received` is what its one
`read` of at most 1023 bytes returned, `none` when the connect, the write or the read failed
or threw. It looks for `version` in the text up to the first NUL byte. -/
def isDaemonRunning : Option Bytes → Bool
  | none => false
  | some received =>
    !received.isEmpty && containsBytes (ascii "version") (received.takeWhile (· != 0))

end DaemonClient

/-- `Daemonizer::is_daemon_running`, which `cmd_daemonize` and `wait_for_daemon` ask: the same
probe as the client's, line for line. -/
def Daemonizer.isDaemonRunning : Option Bytes → Bool := DaemonClient.isDaemonRunning

namespace DaemonClient

/-- A text that holds a pattern still holds it with more after it. -/
theorem containsBytes_append {p : Bytes} : ∀ {s : Bytes}, containsBytes p s = true →
    ∀ z, containsBytes p (s ++ z) = true
  | [], h, z => by
    obtain rfl : p = [] := List.isEmpty_iff.mp h
    cases z <;> rfl
  | c :: s, h, z => by
    simp only [containsBytes, Bool.or_eq_true] at h
    rcases h with h | h
    · simp only [List.cons_append, containsBytes, Bool.or_eq_true]
      exact .inl (List.isPrefixOf_iff_prefix.mpr
        ((List.isPrefixOf_iff_prefix.mp h).trans (List.prefix_append _ _)))
    · simp only [List.cons_append, containsBytes, Bool.or_eq_true]
      exact .inr (containsBytes_append h z)

/-- The first 70 bytes of the reply to `whoami`, up to the end of its key `version`. -/
def whoamiHead : Bytes :=
  ascii "\x7b\"CMD\":\"whoami\",\"error\":null,\"result\":\x7b\"implementation\":\"C++\",\"version"

/-- The reply to `whoami` starts with `whoamiHead`. -/
theorem whoami_dump {v q : Bytes} (hv : dumpString v = some q) :
    (resultReply (ascii "whoami") (.object [(ascii "version", .string v),
      (ascii "implementation", .text "C++")])).dump =
        some (whoamiHead ++ ascii "\":" ++ q ++ ascii "\x7d\x7d") := by
  simp only [resultReply, reply, Json.dump, Json.dump.dumpFields, Json.text, hv]
  simp +decide only [dumpString, Option.some_bind, Option.map_some', List.insertionSort,
    List.orderedInsert, List.map_cons, List.map_nil, if_true, if_false, intercalate_cons_cons,
    intercalate_single, List.append_assoc, List.cons_append]
  rfl

/-- No shorter start of the reply holds `version`: each is a prefix of the first 69 bytes. -/
theorem containsBytes_take_whoamiHead :
    ∀ n < 70, containsBytes (ascii "version") (whoamiHead.take n) = false := by
  have h69 : containsBytes (ascii "version") (whoamiHead.take 69) = false := by decide
  intro n hn
  obtain ⟨z, hz⟩ := List.take_prefix_take_left whoamiHead (show n ≤ 69 by omega)
  exact Bool.eq_false_iff.mpr fun h => by rw [← hz, containsBytes_append h z] at h69; cases h69

/-- The start of the reply to `whoami` has no NUL. -/
theorem whoamiHead_no_nul : ∀ c ∈ whoamiHead, (c != 0) = true := by decide

/-- The probe finds the daemon exactly when its read returned the reply's first 70 bytes. -/
theorem isDaemonRunning_whoami {w w' : World} {r : Json}
    (hrun : (TCPServer.respond (ascii "whoami:\n")).run w = .ok r w') {t : Bytes}
    (hdump : r.dump = some t) (n : Nat) :
    isDaemonRunning (some ((t ++ [newline]).take n)) = decide (70 ≤ n) := by
  have hr : TCPServer.respond (ascii "whoami:\n") =
      catchStd CommandHandler.handleWhoami fun what => pure (errorReply (ascii "whoami") what) := rfl
  simp only [hr, Cmd.run_catchStd] at hrun
  obtain ⟨rfl, -⟩ := EStateM.Result.ok.inj hrun
  cases hv : dumpString w.env.daemonVersion with
  | none => simp [resultReply, reply, Json.dump, Json.dump.dumpFields, hv] at hdump
  | some q =>
    rw [whoami_dump hv] at hdump
    obtain rfl := Option.some.inj hdump
    have hlen : whoamiHead.length = 70 := rfl
    have hne : whoamiHead ≠ [] := by decide
    simp only [List.append_assoc]
    by_cases hn : 70 ≤ n
    · rw [List.take_append_eq_append_take, List.take_of_length_le (by omega),
        isDaemonRunning, List.takeWhile_append_of_pos whoamiHead_no_nul,
        containsBytes_append (by decide) _]
      simp [hn, hne]
    · rw [List.take_append_of_le_length (by omega), isDaemonRunning,
        List.takeWhile_eq_self_iff.mpr fun c hc => whoamiHead_no_nul c (List.mem_of_mem_take hc),
        containsBytes_take_whoamiHead n (by omega)]
      simp [hn]

/-- A read of 69 bytes of the reply from the start does not find the daemon. -/
theorem isDaemonRunning_whoami_quiet :
    ((TCPServer.respond (ascii "whoami:\n")).run (World.init Env.quiet) =
        .ok (resultReply (ascii "whoami") (.object [(ascii "version", .string (ascii "1.0.0")),
          (ascii "implementation", .text "C++")])) (World.init Env.quiet) ∧
      (resultReply (ascii "whoami") (.object [(ascii "version", .string (ascii "1.0.0")),
          (ascii "implementation", .text "C++")])).dump =
        some (ascii "\x7b\"CMD\":\"whoami\",\"error\":null,\"result\":\x7b\"implementation\":\"C++\",\"version\":\"1.0.0\"\x7d\x7d")) ∧
    isDaemonRunning (some ((ascii "\x7b\"CMD\":\"whoami\",\"error\":null,\"result\":\x7b\"implementation\":\"C++\",\"version\":\"1.0.0\"\x7d\x7d" ++ [newline]).take 69)) =
      decide (70 ≤ 69) :=
  ⟨⟨rfl, rfl⟩, isDaemonRunning_whoami (w := World.init Env.quiet) rfl (by rfl) 69⟩

end DaemonClient

end Wpmd
