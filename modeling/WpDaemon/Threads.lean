import WpDaemon.Audit
import WpDaemon.Refinement

/-!
# Connections on concurrent threads

`TCPServer::start` accepts connections in a loop and runs `process_client` on a detached
thread for each one. The threads share two objects. `CommandHandler::execute` holds the
handler's `mutex_` for a whole command, and `AuditLogger::write_log` holds the logger's
mutex for one entry. Everything else a thread touches is its own: its socket, its buffer and
the command it parsed. So the steps of a thread that another can observe are the callback's
`log_command`, `execute`, and the outcome's `log_error` or `log_success`. A thread's local
work (`recv`, `parse_command`, `dump()` and the write) is folded into the nearest of these
steps, which no other thread can tell apart. Between two steps of one thread, any other
thread may step, a child may exit, or the monitor may trip (the silent steps of `Step`).

Over every interleaving of any number of connections:

* the dispatcher's world goes through one serial `Run` of the supervisor, its commands in the
  order they took the handler's mutex (`ServerRun.run`). Under a reliable environment, the
  daemon therefore refines the abstract single-session supervisor (`server_refines`), and
  two `spin_up` replies that report a running child are separated by a `spin_down` that
  reports it stopped or a `state` that reports no child (`spinUp_running_separated`);
* each connection is answered as `Answers` says (`server_answers`): one reply per read, in
  order, and no other connection's reply. Each command line gets the reply that `execute`
  gave it at its place in that serial run.

The worker of a single connection, `processClientAudited`, is one schedule of the server
(`processClientAudited_schedule`). `stop`, a failed `accept` (after which the loop goes on)
and a failed write are not modelled.
-/

namespace Wpmd

/-- A run of the supervisor followed by one more step. -/
theorem Run.snoc {w w' w'' : World} {obs : List (Bytes × Json)} {o : Option (Bytes × Json)}
    (h : Run w obs w') (hs : Step w' o w'') : Run w (obs ++ o.toList) w'' := by
  induction h with
  | done => cases o with
    | none => exact .silent hs (.done _)
    | some o => exact .command hs (.done _)
  | silent hs' _ ih => exact .silent hs' (ih hs)
  | command hs' _ ih => exact .command hs' (ih hs)

section Sessions

open CommandHandler

/-- An abstract run splits where its list does. -/
theorem AbsRun.split {s s'' : Option Session} {l₁ l₂ : List (Request × Json)}
    (h : AbsRun s (l₁ ++ l₂) s'') : ∃ s', AbsRun s l₁ s' ∧ AbsRun s' l₂ s'' := by
  generalize hl : l₁ ++ l₂ = l at h
  induction h generalizing l₁ with
  | nil s =>
    obtain ⟨rfl, rfl⟩ := List.append_eq_nil.mp hl
    exact ⟨s, .nil s, .nil s⟩
  | cons hs h ih =>
    cases l₁ with
    | nil =>
      rw [List.nil_append] at hl
      exact ⟨_, .nil _, hl ▸ .cons hs h⟩
    | cons e l₁ =>
      rw [List.cons_append, List.cons.injEq] at hl
      obtain ⟨rfl, hl⟩ := hl
      obtain ⟨s', h₁, h₂⟩ := ih hl
      exact ⟨s', .cons hs h₁, h₂⟩
  | exit _ ih =>
    obtain ⟨s', h₁, h₂⟩ := ih hl
    exact ⟨s', .exit h₁, h₂⟩

/-- An abstract run that starts with a request takes it after some exits of the child, which
keep a session a session. -/
theorem AbsRun.cons_inv {s s'' : Option Session} {e : Request × Json} {l : List (Request × Json)}
    (h : AbsRun s (e :: l) s'') :
    ∃ s₀ s₁, s₀.isSome = s.isSome ∧ AbsStep s₀ e.1 e.2 s₁ ∧ AbsRun s₁ l s'' := by
  generalize hl : e :: l = l' at h
  induction h with
  | nil => cases hl
  | cons hs h => obtain ⟨rfl, rfl⟩ := List.cons_eq_cons.mp hl; exact ⟨_, _, rfl, hs, h⟩
  | exit _ ih =>
    obtain ⟨s₀, s₁, hsome, hs, h⟩ := ih hl
    exact ⟨s₀, s₁, hsome, hs, h⟩

/-- A `spin_up` whose reply reports a running child starts from no session and opens one. -/
theorem AbsStep.spinUp_running {s s' : Option Session} {name config logFile : Bytes} {pid : Int}
    (h : AbsStep s (.spinUp name) (spinUpReply config pid logFile) s') :
    s = none ∧ ∃ x, s' = some x := by
  generalize hr : spinUpReply config pid logFile = r at h
  cases h with
  | startOk => exact ⟨rfl, _, rfl⟩
  | startFailed | startBusy => simp [spinUpReply, errorReply, resultReply, reply] at hr

/-- An abstract run closes an open session only by a `spin_down` whose reply reports it
stopped, or by a `state` whose reply reports no child running. -/
theorem AbsRun.closes {x : Session} {l : List (Request × Json)} (h : AbsRun (some x) l none) :
    ∃ e ∈ l, (e.1 = .spinDown ∧ ∃ config logFile, e.2 = spinDownReply config logFile) ∨
      (e.1 = .state ∧ ∃ logFile, e.2 = stoppedStateReply logFile) := by
  generalize hs : some x = s at h
  generalize hn : (none : Option Session) = s'' at h
  induction h generalizing x with
  | nil => cases hs.trans hn.symm
  | cons hstep _ ih =>
    subst hs
    cases hstep with
    | stop => exact ⟨_, .head _, .inl ⟨rfl, _, _, rfl⟩⟩
    | probeDead => exact ⟨_, .head _, .inr ⟨rfl, _, rfl⟩⟩
    | startBusy | probeLive | other =>
      obtain ⟨e, he, hsep⟩ := ih rfl hn
      exact ⟨e, .tail _ he, hsep⟩
  | exit _ ih => exact ih rfl hn

/-- In an abstract run, two `spin_up`s whose replies report a running child are separated by
a `spin_down` that reports it stopped or a `state` that reports no child running. -/
theorem AbsRun.spinUp_separated {s s' : Option Session} {pre mid post : List (Request × Json)}
    {name₁ name₂ config₁ config₂ logFile₁ logFile₂ : Bytes} {pid₁ pid₂ : Int}
    (h : AbsRun s (pre ++ (.spinUp name₁, spinUpReply config₁ pid₁ logFile₁) ::
      (mid ++ (.spinUp name₂, spinUpReply config₂ pid₂ logFile₂) :: post)) s') :
    ∃ e ∈ mid, (e.1 = .spinDown ∧ ∃ config logFile, e.2 = spinDownReply config logFile) ∨
      (e.1 = .state ∧ ∃ logFile, e.2 = stoppedStateReply logFile) := by
  obtain ⟨_, -, hrest⟩ := @AbsRun.split _ _ pre _ h
  obtain ⟨_, _, -, hs₁, hrest⟩ := hrest.cons_inv
  obtain ⟨-, x, rfl⟩ := hs₁.spinUp_running
  obtain ⟨s₃, hmid, hlast⟩ := @AbsRun.split _ _ mid _ hrest
  obtain ⟨_, _, hsome, hs₂, -⟩ := hlast.cons_inv
  obtain ⟨rfl, -⟩ := hs₂.spinUp_running
  obtain rfl : s₃ = none := Option.not_isSome_iff_eq_none.mp (by simp [← hsome])
  exact hmid.closes

end Sessions

namespace TCPServer

open AuditLogger

/-- Where the thread of a connection stands between its steps on shared state. -/
inductive Phase
  /-- At the top of `process_client`'s loop, before `recv`. -/
  | receiving
  /-- The callback has logged `command` and waits for the handler's mutex. -/
  | logged (command : Bytes)
  /-- `execute` returned `reply`, whose outcome is not logged yet. -/
  | executed (command : Bytes) (reply : Json)

/-- The thread of one connection. -/
structure Connection where
  /-- What the peer's data arrives as, read by read, until it closes the connection. -/
  reads : List Received
  phase : Phase
  /-- The reads `recv` has returned so far: a ghost for the statements. -/
  received : List Received
  /-- The replies written to the socket. -/
  written : List Bytes

/-- A thread just started on a connection. -/
def Connection.fresh (reads : List Received) : Connection := ⟨reads, .receiving, [], []⟩

/-- The daemon's shared objects and the threads of its connections. -/
structure Server where
  world : World
  audit : AuditLogger
  connections : List Connection

/-- The server `start` leaves listening, with no connection yet. -/
def Server.init (w : World) (a : AuditLogger) : Server := ⟨w, a, []⟩

/-- The callback's entry after `execute`: `log_error` with a string under `error`,
`log_success` with a null or no `error`, and `none` for the `type_error` of the conversion
on anything else. -/
def logOutcome (env : AuditEnv) (cmd : Bytes) (result : Json) (a : AuditLogger) :
    Option AuditLogger :=
  match result.member (ascii "error") with
  | none | some .null => some (logSuccess env (ascii "Command executed successfully") cmd a)
  | some (.string error) => some (logError env error (ascii "command_execution") a)
  | some _ => none

/-- One atomic step of the server: `accept`, a step of one connection's thread, or a step of
the supervisor with no command. An `execute` is labelled with the connection, its command
line and the reply. A step that ends the process (a throw of `execute`, of `dump()` or of
the conversion of `error`) has no successor. -/
inductive ServerStep (env : AuditEnv) : Server → Option (Nat × Bytes × Json) → Server → Prop
  /-- `accept` returns a connection, and a detached thread starts on it. -/
  | accept (s : Server) (reads : List Received) :
      ServerStep env s none { s with connections := s.connections ++ [.fresh reads] }
  /-- `recv` returns a read with a newline, and the callback logs its first line. -/
  | command {s : Server} {i : Nat} {d : Received} {reads received : List Received}
      {written : List Bytes} {cmd : Bytes} :
      s.connections[i]? = some ⟨d :: reads, .receiving, received, written⟩ →
      parseCommand d.data = (cmd, true) →
      ServerStep env s none { s with
        audit := logCommand env cmd (ascii "tcp_client") s.audit
        connections := s.connections.set i ⟨reads, .logged cmd, received ++ [d], written⟩ }
  /-- `recv` returns a read without a newline, which is answered at once. -/
  | noNewline {s : Server} {i : Nat} {d : Received} {reads received : List Received}
      {written : List Bytes} {text : Bytes} :
      s.connections[i]? = some ⟨d :: reads, .receiving, received, written⟩ →
      (parseCommand d.data).2 = false → newlineNotFoundReply.dump = some text →
      ServerStep env s none { s with
        connections :=
          s.connections.set i ⟨reads, .receiving, received ++ [d], written ++ [text ++ [newline]]⟩ }
  /-- The thread holds the handler's mutex while `execute` runs. -/
  | execute {s : Server} {i : Nat} {reads received : List Received} {written : List Bytes}
      {cmd : Bytes} {reply : Json} {w : World} :
      s.connections[i]? = some ⟨reads, .logged cmd, received, written⟩ →
      (CommandHandler.execute cmd).run s.world = .ok reply w →
      ServerStep env s (some (i, cmd, reply)) { s with
        world := w
        connections := s.connections.set i ⟨reads, .executed cmd reply, received, written⟩ }
  /-- The callback logs the outcome, and the thread writes the reply back. -/
  | reply {s : Server} {i : Nat} {reads received : List Received} {written : List Bytes}
      {cmd text : Bytes} {reply : Json} {a : AuditLogger} :
      s.connections[i]? = some ⟨reads, .executed cmd reply, received, written⟩ →
      logOutcome env cmd reply s.audit = some a → reply.dump = some text →
      ServerStep env s none { s with
        audit := a
        connections := s.connections.set i ⟨reads, .receiving, received, written ++ [text ++ [newline]]⟩ }
  /-- A child exits or the monitor trips. -/
  | silent {s : Server} {w : World} : Step s.world none w → ServerStep env s none { s with world := w }

/-- The runs of the server from `s₀`, with the labels of their `execute`s in order. -/
inductive ServerRun (env : AuditEnv) (s₀ : Server) : List (Nat × Bytes × Json) → Server → Prop
  | start : ServerRun env s₀ [] s₀
  | step {obs : List (Nat × Bytes × Json)} {s s' : Server} {o : Option (Nat × Bytes × Json)} :
      ServerRun env s₀ obs s → ServerStep env s o s' → ServerRun env s₀ (obs ++ o.toList) s'

variable {env : AuditEnv}

/-- A run that starts with one more step. -/
theorem ServerRun.cons {s₀ s₁ s : Server} {o : Option (Nat × Bytes × Json)}
    {obs : List (Nat × Bytes × Json)} (hs : ServerStep env s₀ o s₁) (h : ServerRun env s₁ obs s) :
    ServerRun env s₀ (o.toList ++ obs) s := by
  induction h with
  | start => simpa using ServerRun.start.step hs
  | step _ hs' ih => simpa [List.append_assoc] using ih.step hs'

section Serial

/-- A step of the server leaves the world alone, or is one step of the supervisor with the
command it labels. -/
theorem ServerStep.world {s s' : Server} {o : Option (Nat × Bytes × Json)}
    (h : ServerStep env s o s') :
    (s'.world = s.world ∧ o = none) ∨ Step s.world (o.map Prod.snd) s'.world := by
  cases h with
  | execute _ hrun => exact .inr (.execute hrun)
  | silent hs => exact .inr hs
  | _ => exact .inl ⟨rfl, rfl⟩

/-- The handler's mutex serializes the commands: over every interleaving, the world goes
through one run of the supervisor, its commands in the order they took the mutex. -/
theorem ServerRun.run {s₀ s : Server} {obs : List (Nat × Bytes × Json)}
    (h : ServerRun env s₀ obs s) : Run s₀.world (obs.map Prod.snd) s.world := by
  induction h with
  | start => exact .done _
  | @step obs s s' o _ hs ih =>
    rcases hs.world with ⟨hw, rfl⟩ | hstep
    · simpa [hw] using ih
    · cases o <;> simpa using ih.snoc hstep

/-- From the start, under an environment in which `get_version`, `terminate` and `finalize`
succeed, the commands of every server run form a run of the abstract supervisor. -/
theorem ServerRun.absRun {env : Env} (hrel : env.Reliable) {aenv : AuditEnv} {a : AuditLogger}
    {obs : List (Nat × Bytes × Json)} {s : Server}
    (h : ServerRun aenv (Server.init (World.init env) a) obs s) :
    AbsRun none (obs.map fun o => (Request.parse o.2.1, o.2.2)) (session s.world) := by
  have hrun : Run (World.init env) (obs.map Prod.snd) s.world := h.run
  have habs := hrun.refines hrel (.inl (World.init_idle env))
  rwa [(World.init_idle env).session_eq, List.map_map] at habs

/-- Over every interleaving of any number of connections, under an environment in which
`get_version`, `terminate` and `finalize` succeed: between two `spin_up` replies that report a
running child, in the order the commands took the handler's mutex, there is a `spin_down`
reply that reports it stopped or a `state` reply that reports no child running. -/
theorem spinUp_running_separated {env : Env} (hrel : env.Reliable) {aenv : AuditEnv}
    {a : AuditLogger} {obs : List (Nat × Bytes × Json)} {s : Server}
    (h : ServerRun aenv (Server.init (World.init env) a) obs s)
    {pre mid post : List (Nat × Bytes × Json)} {o₁ o₂ : Nat × Bytes × Json}
    (hobs : obs = pre ++ o₁ :: (mid ++ o₂ :: post))
    (h₁ : ∃ name config pid logFile, Request.parse o₁.2.1 = .spinUp name ∧
      o₁.2.2 = CommandHandler.spinUpReply config pid logFile)
    (h₂ : ∃ name config pid logFile, Request.parse o₂.2.1 = .spinUp name ∧
      o₂.2.2 = CommandHandler.spinUpReply config pid logFile) :
    ∃ o ∈ mid, (Request.parse o.2.1 = .spinDown ∧
        ∃ config logFile, o.2.2 = CommandHandler.spinDownReply config logFile) ∨
      (Request.parse o.2.1 = .state ∧ ∃ logFile, o.2.2 = CommandHandler.stoppedStateReply logFile) := by
  obtain ⟨_, _, _, _, hq₁, hr₁⟩ := h₁
  obtain ⟨_, _, _, _, hq₂, hr₂⟩ := h₂
  have habs := h.absRun hrel
  simp only [hobs, List.map_append, List.map_cons, hq₁, hr₁, hq₂, hr₂] at habs
  obtain ⟨_, he, hsep⟩ := habs.spinUp_separated
  obtain ⟨o, ho, rfl⟩ := List.mem_map.mp he
  exact ⟨o, ho, hsep⟩

/-- Two connections on a fresh daemon: the first sends `spin_up:wg` twice, the second
`spin_down:` between them. -/
theorem spinUp_running_separated_twoClients :
    Env.quiet.Reliable ∧
      ∃ s o₁ o o₂, ServerRun AuditEnv.steady (Server.init (World.init .quiet) ⟨some [], true, 0, 0⟩)
          [o₁, o, o₂] s ∧
        (∃ name config pid logFile, Request.parse o₁.2.1 = .spinUp name ∧
          o₁.2.2 = CommandHandler.spinUpReply config pid logFile) ∧
        (∃ name config pid logFile, Request.parse o₂.2.1 = .spinUp name ∧
          o₂.2.2 = CommandHandler.spinUpReply config pid logFile) ∧
        ∃ o' ∈ [o], (Request.parse o'.2.1 = .spinDown ∧
            ∃ config logFile, o'.2.2 = CommandHandler.spinDownReply config logFile) ∨
          (Request.parse o'.2.1 = .state ∧ ∃ logFile, o'.2.2 = CommandHandler.stoppedStateReply logFile) := by
  have hrel : Env.quiet.Reliable := ⟨fun _ => rfl, fun _ => rfl, fun _ => rfl⟩
  have hup : Request.parse (ascii "spin_up:wg\n") = .spinUp (ascii "wg") := by decide
  -- the first `spin_up` starts a session, `spin_down` ends it, and the second starts another
  obtain ⟨p, w₁, hrun₁, hA₁, -, henv₁, -⟩ :=
    handleSpinUp_starts (w := World.init .quiet) hrel (World.init_idle _) (ascii "wg") rfl rfl rfl rfl rfl
  obtain ⟨w₂, hrun₂, henv₂, hidle₂, -⟩ := handleSpinDown_active (henv₁ ▸ hrel) hA₁
  have henv : w₂.env = Env.quiet := henv₂.trans henv₁
  obtain ⟨-, w₃, hrun₃, -⟩ := handleSpinUp_starts (henv ▸ hrel) hidle₂ (ascii "wg")
    (by rw [ConfigManager.configExists_run, henv]; rfl) (by rw [henv]; rfl) (by rw [henv]; rfl)
    (by rw [henv]; rfl) (by rw [henv]; rfl)
  have hacc := ((@ServerRun.start AuditEnv.steady
      (Server.init (World.init .quiet) ⟨some [], true, 0, 0⟩)).step
      (.accept _ [⟨ascii "spin_up:wg\n", by decide, by decide⟩,
        ⟨ascii "spin_up:wg\n", by decide, by decide⟩])).step
      (.accept _ [⟨ascii "spin_down:\n", by decide, by decide⟩])
  have h := ((((((hacc.step
      (.command (i := 0) rfl rfl)).step (.execute (i := 0) rfl (execute_of_spinUp hup hrun₁))).step
      (.reply (i := 0) rfl rfl rfl)).step
      (.command (i := 1) rfl rfl)).step (.execute (i := 1) rfl (execute_of_spinDown (by decide) hrun₂))).step
      (.command (i := 0) rfl rfl)).step (.execute (i := 0) rfl (execute_of_spinUp hup hrun₃))
  exact ⟨hrel, _, _, _, _, h, ⟨_, _, _, _, hup, rfl⟩, ⟨_, _, _, _, hup, rfl⟩,
    @spinUp_running_separated _ hrel _ _ _ _ h [] [_] [] _ _ rfl ⟨_, _, _, _, hup, rfl⟩
      ⟨_, _, _, _, hup, rfl⟩⟩

end Serial

section Answers

/-- The replies a connection is owed, read by read in order: `Newline not found` for a read
without a newline, and for a read with one, the reply to its first line. `cmds` lists those
lines with their replies, in order. -/
inductive Answers : List Received → List (Bytes × Json) → List Bytes → Prop
  | nil : Answers [] [] []
  | noNewline {reads : List Received} {cmds : List (Bytes × Json)} {written : List Bytes}
      {d : Received} {text : Bytes} : Answers reads cmds written →
      (parseCommand d.data).2 = false → newlineNotFoundReply.dump = some text →
      Answers (reads ++ [d]) cmds (written ++ [text ++ [newline]])
  | command {reads : List Received} {cmds : List (Bytes × Json)} {written : List Bytes}
      {d : Received} {cmd text : Bytes} {reply : Json} : Answers reads cmds written →
      parseCommand d.data = (cmd, true) → reply.dump = some text →
      Answers (reads ++ [d]) (cmds ++ [(cmd, reply)]) (written ++ [text ++ [newline]])

/-- One reply for each read: none lost, none doubled. -/
theorem Answers.length_eq {reads : List Received} {cmds : List (Bytes × Json)}
    {written : List Bytes} (h : Answers reads cmds written) : written.length = reads.length := by
  induction h <;> simp [*]

/-- The commands connection `i` ran, with their replies, in the order of the run. -/
def commandsOf (i : Nat) (obs : List (Nat × Bytes × Json)) : List (Bytes × Json) :=
  obs.filterMap fun o => if o.1 = i then some o.2 else none

theorem commandsOf_append (i : Nat) (obs obs' : List (Nat × Bytes × Json)) :
    commandsOf i (obs ++ obs') = commandsOf i obs ++ commandsOf i obs' :=
  List.filterMap_append _ _ _

theorem commandsOf_of_forall_ne {i : Nat} {obs : List (Nat × Bytes × Json)}
    (h : ∀ o ∈ obs, o.1 ≠ i) : commandsOf i obs = [] :=
  List.filterMap_eq_nil_iff.mpr fun o ho => by simp [h o ho]

/-- Where a connection's thread stands against the commands `cmds` it ran: at the top of its
loop every read is answered; after logging a command, every read before it; after `execute`,
the same, with that command and its reply the last of `cmds`. -/
def Connection.Answered (c : Connection) (cmds : List (Bytes × Json)) : Prop :=
  match c.phase with
  | .receiving => Answers c.received cmds c.written
  | .logged cmd => ∃ pre d, c.received = pre ++ [d] ∧ parseCommand d.data = (cmd, true) ∧
      Answers pre cmds c.written
  | .executed cmd reply => ∃ pre d cmds', c.received = pre ++ [d] ∧
      parseCommand d.data = (cmd, true) ∧ cmds = cmds' ++ [(cmd, reply)] ∧ Answers pre cmds' c.written

/-- Every label of the run names a connection, and every connection is where its commands
say. -/
structure Served (obs : List (Nat × Bytes × Json)) (s : Server) : Prop where
  labels : ∀ o ∈ obs, o.1 < s.connections.length
  answered : ∀ i (c : Connection), s.connections[i]? = some c → c.Answered (commandsOf i obs)

/-- A step of one connection's thread keeps the others where they were. -/
theorem Served.set {obs obs' : List (Nat × Bytes × Json)} {s : Server} {i : Nat} {c : Connection}
    (h : Served obs s) (hi : i < s.connections.length)
    (hobs : ∀ o ∈ obs', o.1 < s.connections.length)
    (hother : ∀ j, i ≠ j → commandsOf j obs' = commandsOf j obs)
    (hc : c.Answered (commandsOf i obs')) (w : World) (a : AuditLogger) :
    Served obs' ⟨w, a, s.connections.set i c⟩ := by
  refine ⟨fun o ho => (List.length_set _ _ _).symm ▸ hobs o ho, fun j c' hj => ?_⟩
  rw [List.getElem?_set] at hj
  split_ifs at hj with hij
  · obtain rfl := hij
    obtain rfl := Option.some.inj hj
    exact hc
  · exact hother j hij ▸ h.answered j c' hj

/-- Every step keeps every connection where its commands say. -/
theorem ServerStep.served {s s' : Server} {o : Option (Nat × Bytes × Json)}
    {obs : List (Nat × Bytes × Json)} (hs : ServerStep env s o s') (h : Served obs s) :
    Served (obs ++ o.toList) s' := by
  cases hs with
  | accept reads =>
    simp only [Option.toList, List.append_nil]
    refine ⟨fun o ho => by simpa using Nat.lt_succ_of_lt (h.labels o ho), fun i c hc => ?_⟩
    rcases Nat.lt_or_ge i s.connections.length with hi | hi
    · rw [List.getElem?_append_left hi] at hc
      exact h.answered i c hc
    · rw [List.getElem?_append_right hi] at hc
      obtain rfl : c = .fresh reads := by
        rcases hk : i - s.connections.length with _ | k <;> simp_all
      rw [commandsOf_of_forall_ne fun o ho => by have := h.labels o ho; omega]
      exact Answers.nil
  | command hc hparse =>
    have hi := (List.getElem?_eq_some_iff.mp hc).1
    have hold := h.answered _ _ hc
    simp only [Option.toList, List.append_nil]
    refine h.set hi h.labels (fun _ _ => rfl) ?_ _ _
    exact ⟨_, _, rfl, hparse, hold⟩
  | noNewline hc hparse hdump =>
    have hi := (List.getElem?_eq_some_iff.mp hc).1
    have hold := h.answered _ _ hc
    simp only [Option.toList, List.append_nil]
    refine h.set hi h.labels (fun _ _ => rfl) ?_ _ _
    exact hold.noNewline hparse hdump
  | @execute i reads received written cmd reply w hc hrun =>
    have hi := (List.getElem?_eq_some_iff.mp hc).1
    obtain ⟨pre, d, hrec, hparse, hans⟩ := h.answered _ _ hc
    refine h.set hi (fun o ho => ?_) (fun j hij => ?_) ?_ _ _
    · rcases List.mem_append.mp ho with ho | ho
      · exact h.labels o ho
      · simp only [Option.toList, List.mem_singleton] at ho
        exact ho ▸ hi
    · simp [commandsOf_append, commandsOf, hij]
    · exact ⟨pre, d, _, hrec, hparse, by simp [commandsOf_append, commandsOf], hans⟩
  | reply hc hlog hdump =>
    have hi := (List.getElem?_eq_some_iff.mp hc).1
    obtain ⟨pre, d, cmds', hrec, hparse, hcmds, hans⟩ := h.answered _ _ hc
    simp only [Option.toList, List.append_nil]
    refine h.set hi h.labels (fun _ _ => rfl) ?_ _ _
    show Answers _ _ _
    rw [hrec, hcmds]
    exact hans.command hparse hdump
  | silent _ =>
    simp only [Option.toList, List.append_nil]
    exact ⟨h.labels, h.answered⟩

/-- Every run from the start keeps every connection where its commands say. -/
theorem ServerRun.served {w : World} {a : AuditLogger} {obs : List (Nat × Bytes × Json)}
    {s : Server} (h : ServerRun env (Server.init w a) obs s) : Served obs s := by
  induction h with
  | start => exact ⟨by simp, fun i c hc => by simp [Server.init] at hc⟩
  | step _ hs ih => exact hs.served ih

/-- Over every interleaving of any number of connections, each connection whose thread is at
the top of its loop has been answered as `Answers` says: one reply per read, in order, and
for each command line the reply `execute` gave it in the one serial run of the daemon, whose
commands are those of all connections in the order they took the handler's mutex. -/
theorem server_answers {w : World} {a : AuditLogger} {obs : List (Nat × Bytes × Json)}
    {s : Server} (h : ServerRun env (Server.init w a) obs s) {i : Nat} {c : Connection}
    (hc : s.connections[i]? = some c) (hphase : c.phase = .receiving) :
    Answers c.received (commandsOf i obs) c.written ∧ Run w (obs.map Prod.snd) s.world := by
  have hans := h.served.answered i c hc
  simp only [Connection.Answered, hphase] at hans
  exact ⟨hans, h.run⟩

/-- One connection sends `state:` to a fresh daemon and is answered. -/
theorem server_answers_state :
    ∃ s, ServerRun AuditEnv.steady (Server.init (World.init .quiet) ⟨some [], true, 0, 0⟩)
        [(0, ascii "state:\n", CommandHandler.stoppedStateReply [])] s ∧
      ∃ c, s.connections[0]? = some c ∧ c.phase = .receiving ∧
        Answers c.received (commandsOf 0 [(0, ascii "state:\n", CommandHandler.stoppedStateReply [])])
          c.written ∧
        Run (World.init .quiet)
          ([(0, ascii "state:\n", CommandHandler.stoppedStateReply [])].map Prod.snd) s.world := by
  have h := ((((@ServerRun.start AuditEnv.steady
      (Server.init (World.init .quiet) ⟨some [], true, 0, 0⟩)).step
      (.accept _ [⟨ascii "state:\n", by decide, by decide⟩])).step (.command (i := 0) rfl rfl)).step
      (.execute (i := 0) rfl rfl)).step (.reply (i := 0) rfl rfl rfl)
  exact ⟨_, h, _, rfl, rfl, server_answers h rfl rfl⟩

end Answers

section Schedule

/-- After the callback's `log_command`, the outcome entry of a reply of the schema is the one
`auditCommand` adds: the conversion of `error` never throws. -/
theorem logOutcome_logCommand {name cmd : Bytes} {reply : Json} (h : ReplySchema name reply)
    (a : AuditLogger) :
    logOutcome env cmd reply (logCommand env cmd (ascii "tcp_client") a) =
      some (auditCommand env cmd reply a) := by
  rcases h.member_error with ⟨message, hm⟩ | hm <;> simp [logOutcome, auditCommand, hm]

/-- The worker of one connection, from a thread that has received `received` and written
`written`, is one schedule of the server with that connection alone. -/
theorem schedule_of_processClientAudited {reads : List Received} {a a' : AuditLogger}
    {w w' : World} {texts : List Bytes}
    (h : (processClientAudited env reads a).run w = .ok (texts, a') w')
    (received : List Received) (written : List Bytes) :
    ∃ obs, ServerRun env ⟨w, a, [⟨reads, .receiving, received, written⟩]⟩ obs
      ⟨w', a', [⟨[], .receiving, received ++ reads, written ++ texts⟩]⟩ := by
  induction reads generalizing a w received written texts with
  | nil =>
    simp only [processClientAudited, Cmd.run_pure, EStateM.Result.ok.injEq, Prod.mk.injEq] at h
    obtain ⟨⟨rfl, rfl⟩, rfl⟩ := h
    exact ⟨[], by simpa using ServerRun.start⟩
  | cons d rest ih =>
    simp only [processClientAudited, Cmd.run_bind, respondAudited_run] at h
    rcases hr : (respond d.data).run w with ⟨reply, w₁⟩ | ⟨e, w₁⟩ <;>
      simp only [hr, reduceCtorEq] at h
    cases hd : reply.dump with
    | none => simp [writeReply, hd] at h
    | some t =>
      simp only [writeReply, hd, Cmd.run_pure] at h
      rcases hp : (processClientAudited env rest (auditRead env d.data reply a)).run w₁ with
        ⟨⟨texts', a''⟩, w₂⟩ | ⟨e, w₂⟩ <;>
        simp only [hp, Cmd.run_pure, EStateM.Result.ok.injEq, Prod.mk.injEq, reduceCtorEq] at h
      obtain ⟨⟨rfl, rfl⟩, rfl⟩ := h
      obtain ⟨obs, hrun⟩ := ih hp (received ++ [d]) (written ++ [t ++ [newline]])
      simp only [List.append_assoc, List.singleton_append] at hrun
      rcases hparse : parseCommand d.data with ⟨cmd, _ | _⟩
      · -- a read without a newline is answered at once, and logs nothing
        obtain ⟨rfl, rfl⟩ : newlineNotFoundReply = reply ∧ w = w₁ := by
          simpa [respond, hparse] using hr
        rw [show auditRead env d.data newlineNotFoundReply a = a by simp [auditRead, hparse]] at hrun
        exact ⟨_, ServerRun.cons (.noNewline (i := 0) rfl (by simp [hparse]) hd) hrun⟩
      · -- a command line: `log_command`, `execute`, then the outcome and the reply
        have hexec : (CommandHandler.execute cmd).run w = .ok reply w₁ := by
          simpa [respond, hparse] using hr
        rw [show auditRead env d.data reply a = auditCommand env cmd reply a by
          simp [auditRead, hparse]] at hrun
        exact ⟨_, ServerRun.cons (.command (i := 0) rfl hparse) <| ServerRun.cons (.execute (i := 0) rfl hexec) <|
          ServerRun.cons (.reply (i := 0) rfl (logOutcome_logCommand (ReplySchema.of_execute hexec) a) hd) hrun⟩

/-- The worker of a single connection is one schedule of the server: what
`processClientAudited` writes and leaves, the server reaches with that connection alone, once
its thread has received every read. -/
theorem processClientAudited_schedule {reads : List Received} {a a' : AuditLogger}
    {w w' : World} {texts : List Bytes}
    (h : (processClientAudited env reads a).run w = .ok (texts, a') w') :
    ∃ obs, ServerRun env ⟨w, a, [.fresh reads]⟩ obs ⟨w', a', [⟨[], .receiving, reads, texts⟩]⟩ := by
  simpa only [List.nil_append] using schedule_of_processClientAudited h [] []

/-- `whoami:` on a connection alone. -/
theorem processClientAudited_schedule_whoami :
    ∃ texts a' w', (processClientAudited AuditEnv.steady [⟨ascii "whoami:\n", by decide, by decide⟩]
        ⟨some [], true, 0, 0⟩).run (World.init .quiet) = .ok (texts, a') w' ∧
      ∃ obs, ServerRun AuditEnv.steady ⟨World.init .quiet, ⟨some [], true, 0, 0⟩,
          [.fresh [⟨ascii "whoami:\n", by decide, by decide⟩]]⟩ obs
        ⟨w', a', [⟨[], .receiving, [⟨ascii "whoami:\n", by decide, by decide⟩], texts⟩]⟩ :=
  ⟨_, _, _, rfl, processClientAudited_schedule rfl⟩

end Schedule

end TCPServer

end Wpmd
