import WpDaemon.Supervisor

/-!
# The TCP worker

`TCPServer::process_client` serves one connection. Each `recv` fills a 4096-byte buffer with
at most 4095 bytes; `parse_command` takes what that one read returned up to and including its
first newline and the worker hands it to the command callback, which is
`CommandHandler::execute` (the audit logging around it is a passive sink). A read without a
newline gets the `Newline not found` reply. Nothing is kept from one read to the next, and
the bytes after the first newline of a read are dropped, so the replies depend on how the
stream is cut into reads (`processClient_split_line`). The reply's `dump()` and a newline
are written back. `dump()` throws on a string that is not UTF-8, and nothing in the worker
thread catches it, so the exception reaches `std::terminate`.
-/

namespace Wpmd

namespace TCPServer

/-- The listening side of `TCPServer`: `running_` and whether `acceptor_` is open. -/
structure Listener where
  running : Bool
  acceptorOpen : Bool
  deriving DecidableEq, Repr

/-- `TCPServer::stop`: clear `running_`, and close the acceptor if it is open. -/
def stop (l : Listener) : Listener :=
  { l with running := false, acceptorOpen := false }

/-- What one successful `recv` returns: between 1 and `sizeof(buffer) - 1` bytes. -/
structure Received where
  data : Bytes
  nonempty : data ≠ []
  bounded : data.length ≤ 4095

/-- `TCPServer::parse_command`: the data up to and including its first newline, and whether
it has one. -/
def parseCommand (data : Bytes) : Bytes × Bool :=
  match findByte newline data with
  | none => ([], false)
  | some newlinePos => (data.take (newlinePos + 1), true)

/-- The reply to a read without a newline. -/
def newlineNotFoundReply : Json := errorReply (ascii "unknown") (ascii "Newline not found")

/-- The reply to one read: the callback's on its first line, or the parsing error. -/
def respond (data : Bytes) : Cmd Json :=
  let (command, success) := parseCommand data
  if success then CommandHandler.execute command else pure newlineNotFoundReply

/-- `response.dump() + "\n"`, or the end of the process when `dump()` throws. -/
def writeReply (response : Json) : Cmd Bytes :=
  match response.dump with
  | none => throw .abort
  | some text => pure (text ++ [newline])

/-- The loop of `TCPServer::process_client` over the reads of one connection, until the peer
closes it: the bytes written, one reply a read. -/
def processClient : List Received → Cmd (List Bytes)
  | [] => pure []
  | data :: rest => do
    let text ← writeReply (← respond data.data)
    return text :: (← processClient rest)

/-- The bytes `state:\n` from the initial state, chunked two ways: as one read they get the
state reply, while split after `state` the first read gets `Newline not found` and the second is
the unknown command with an empty name. -/
theorem processClient_split_line :
    (processClient [⟨ascii "state:\n", by decide, by decide⟩]).run (World.init .quiet) =
      .ok [ascii ("\x7b\"CMD\":\"state\",\"error\":null,\"result\":\x7b\"config\":null," ++
        "\"log_file\":null,\"pid\":null,\"running\":false\x7d\x7d\n")] (World.init .quiet) ∧
    (processClient [⟨ascii "state", by decide, by decide⟩, ⟨ascii ":\n", by decide, by decide⟩]).run
        (World.init .quiet) =
      .ok [ascii "\x7b\"CMD\":\"unknown\",\"error\":\"Newline not found\",\"result\":null\x7d\n",
        ascii "\x7b\"CMD\":\"\",\"error\":\"Unknown command: \",\"result\":null\x7d\n"]
        (World.init .quiet) :=
  ⟨rfl, rfl⟩

/-- A string that is not UTF-8 is none of the command names. -/
private theorem ne_of_utf8Valid {a b : Bytes} (ha : utf8Valid a = false) (hb : utf8Valid b = true) :
    a ≠ b := by
  rintro rfl
  simp [ha] at hb

/-- A command line whose name is not UTF-8 is an unknown command, whatever the dispatcher's
state; its reply echoes the name. -/
theorem execute_of_invalid_name (w : World) {line : Bytes} {colonPos : Nat}
    (hcolon : findByte 58 line = some colonPos) (hname : utf8Valid (line.take colonPos) = false) :
    (CommandHandler.execute line).run w = .ok (errorReply (line.take colonPos)
      (ascii "Unknown command: " ++ line.take colonPos)) w := by
  have hne (s : String) (hs : utf8Valid (ascii s) = true) := ne_of_utf8Valid hname hs
  simp [CommandHandler.execute, hcolon, CommandHandler.dispatch, hne "spin_up" (by decide),
    hne "spin_down" (by decide), hne "state" (by decide), hne "available_confs" (by decide),
    hne "whoami" (by decide)]

/-- A read whose first line names a command in bytes that are not UTF-8 ends the daemon,
whatever its state and whatever the connection sends next: the unknown-command reply echoes
the name, `dump()` throws, and the worker thread does not catch it. -/
theorem processClient_invalid_name_terminates (w : World) (rest : List Received) :
    (processClient (⟨[0xFF, 58, 10], by decide, by decide⟩ :: rest)).run w = .error .abort w := by
  have hrun := execute_of_invalid_name w (show findByte 58 [0xFF, 58, 10] = some 1 from rfl)
    (by decide)
  have hdump := reply_dump_eq_none (show utf8Valid [0xFF] = false by decide) .null
    (.string (ascii "Unknown command: " ++ [0xFF]))
  simp only [List.take] at hrun
  simp [processClient, respond, parseCommand, findByte, newline, hrun, writeReply, errorReply, hdump]

end TCPServer

end Wpmd
