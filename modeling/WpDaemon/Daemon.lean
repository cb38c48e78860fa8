import WpDaemon.TcpServer
import WpDaemon.Refinement

/-!
# Shutdown of the daemon

`run_daemon_mode` installs `signal_handler` for `SIGINT` and `SIGTERM`. The handler stops the
server `g_server` points to and calls `exit(0)`. `exit` runs the `atexit` functions and the
destructors of static objects, and flushes and closes the C streams; it does not unwind the
stack of `run_daemon_mode`, where the `CommandHandler`, the `WireProxyProcess` it owns and the
`LogManager` live, so none of their destructors runs. No `atexit` function or static object
of the daemon signals the child, which leads its own process group.
-/

namespace Wpmd

/-- `exit(0)`: the C library closes the open streams, the session log among them, without a
footer; nothing else of the dispatcher runs. -/
def exitProcess (w : World) : World := { w with logOpen := false }

/-- `signal_handler`: stop the server `g_server` points to, if there is one, then `exit(0)`. -/
def signalHandler (server : Option TCPServer.Listener) (w : World) :
    Option TCPServer.Listener × World :=
  (server.map TCPServer.stop, exitProcess w)

/-- A daemon serving a session that receives `SIGTERM` or `SIGINT` exits with its child still
running, never signalled, and the session log without a footer. The session is the one
`spin_up:wg` starts from the initial state; the handler's effect is the same for every
listener state. -/
theorem shutdown_orphans_child :
    ∃ w p, Reachable w ∧ Active w p ∧ ∀ server,
      let w' := (signalHandler server w).2
      w'.children p.pid = .running ∧ (∀ sig, .kill (-p.pid) sig ∉ w'.trace) ∧
        ∀ t reason, .footer t reason ∉ w'.files w.currentLogPath := by
  have hrel : Env.quiet.Reliable := ⟨fun _ => rfl, fun _ => rfl, fun _ => rfl⟩
  have hup : Request.parse (ascii "spin_up:wg\n") = .spinUp (ascii "wg") := rfl
  obtain ⟨p, w, hrun, hA, hpid, -, -, hpath, htr, hfiles, hlive⟩ :=
    handleSpinUp_starts hrel (World.init_idle Env.quiet) (ascii "wg") rfl rfl rfl rfl rfl
  refine ⟨w, p, .step (.init _) (.execute (execute_of_spinUp hup hrun)), hA, fun server =>
    ⟨hpid ▸ hlive, fun sig => ?_, fun t reason => ?_⟩⟩
  · simp [signalHandler, exitProcess, htr, hpid, World.init]
  · simp only [signalHandler, exitProcess, hfiles, hpath, Function.update_apply]
    split <;> simp [World.init]

end Wpmd
