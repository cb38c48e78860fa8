import WpDaemon.Supervisor

/-!
# Stopping the child

`terminate` sends `SIGTERM` to the child's group and polls fifty times, 100 ms apart, with a
non-blocking `waitpid`; a child that one of the polls reaps ended gracefully. Otherwise it
sends `SIGKILL` to the group and a blocking `waitpid` reaps the child. `cleanup` then stops
and joins the watchdog and forgets the child, so every later call answers `Not running` and
signals nothing. What the child does after `SIGTERM` is the environment's choice: it exits
during one of the sleeps, or never.
-/

namespace Wpmd

namespace WireProxyProcess

/-- Whether one of the first `n` polls from `w` reaps the child: it has exited already, or it
exits during one of the `n` sleeps. -/
def exitsWithin (w : World) (pid : Int) (n : Nat) : Bool :=
  (List.range n).any fun i => w.children pid == .zombie || w.env.exits (w.tick + i) pid

/-- A child still running after a sleep is reaped by one of the next `n` polls exactly when
it is by one of the `n` polls after that sleep. -/
theorem exitsWithin_succ_of_running {w : World} {pid : Int} (h : w.children pid = .running)
    (hexit : w.env.exits w.tick pid = false) (n : Nat) :
    exitsWithin w pid (n + 1) = exitsWithin w.sleep pid n := by
  simp only [exitsWithin, List.range_succ_eq_map, List.any_cons, List.any_map,
    World.sleep_children, h, Nat.add_zero, hexit]
  simp [World.sleep, Function.comp_def, Nat.add_assoc, Nat.add_comm 1]

/-- A child that has exited by the end of a sleep is reaped by the poll after it. -/
theorem exitsWithin_succ_of_zombie {w : World} {pid : Int}
    (h : w.sleep.children pid = .zombie) (n : Nat) : exitsWithin w pid (n + 1) = true := by
  simp only [World.sleep_children] at h
  cases hc : w.children pid <;> cases he : w.env.exits w.tick pid <;>
    simp_all [exitsWithin, List.range_succ_eq_map]

/-- A round of the loop: the sleep, then the poll from the world after it. -/
theorem pollExit_succ_run (pid : Int) (n : Nat) (w : World) :
    (pollExit pid (n + 1)).run w =
      (waitpidNoHang pid >>= fun r => if r = pid then pure true else pollExit pid n).run w.sleep :=
  rfl

/-- The polls of `terminate` reap the child exactly when it exits within them; when they do
not, the child is as it was. The reap is all they leave in the trace. -/
theorem pollExit_run {pid : Int} (hpid : 0 < pid) :
    ∀ (n : Nat) (w : World), (w.children pid = .running ∨ w.children pid = .zombie) →
      ∃ w', (pollExit pid n).run w = .ok (exitsWithin w pid n) w' ∧ OsFrame w w' ∧
        w'.trace = w.trace ++ (if exitsWithin w pid n then [.reap pid] else []) ∧
        w'.children pid = if exitsWithin w pid n then .reaped else w.children pid
  | 0, w, _ => ⟨w, rfl, .refl w, by simp [exitsWithin], by simp [exitsWithin]⟩
  | n + 1, w, hlive => by
    have hsleep : w.sleep.children pid = .zombie ∨
        w.children pid = .running ∧ w.env.exits w.tick pid = false := by
      rcases hlive with h | h <;> cases he : w.env.exits w.tick pid <;> simp [h, he]
    rcases hsleep with hz | ⟨hrun, hexit⟩
    · -- the child has exited by the end of the sleep: this poll reaps it
      rw [exitsWithin_succ_of_zombie hz]
      refine ⟨w.sleep.reap pid, ?_, (OsFrame.sleep w).trans (World.reap_frame (by rw [hz]; decide)),
        rfl, by simp [World.reap]⟩
      rw [pollExit_succ_run, Cmd.run_bind, waitpidNoHang_spec, hz]
      simp
    · -- still running: the next rounds are the loop from the world after the sleep
      have hs : w.sleep.children pid = .running := by simp [hrun, hexit]
      obtain ⟨w', hpoll, hf, htr, hc⟩ := pollExit_run hpid n w.sleep (.inl hs)
      rw [exitsWithin_succ_of_running hrun hexit]
      refine ⟨w', ?_, (OsFrame.sleep w).trans hf, htr, by rw [hc, hs, hrun]⟩
      rw [pollExit_succ_run, Cmd.run_bind, waitpidNoHang_spec, hs]
      simp [hpid.ne, hpoll]

/-- The escalation sends `SIGTERM` to the group; a child that the polls reap has ended
gracefully, and any other gets `SIGKILL` and is reaped by the blocking `waitpid`. -/
theorem escalate_run {pid : Int} (hpid : 0 < pid) {w : World}
    (hlive : w.children pid = .running ∨ w.children pid = .zombie) :
    ∃ w', (escalate pid).run w = .ok (if exitsWithin w pid 50 then ascii "Graceful termination"
        else ascii "Force killed") w' ∧ OsFrame w w' ∧
      w'.trace = w.trace ++ .kill (-pid) .sigterm ::
        ((if exitsWithin w pid 50 then [] else [.kill (-pid) .sigkill]) ++ [.reap pid]) ∧
      w'.children pid = .reaped := by
  -- `SIGTERM` only writes the trace, so the polls start from the child as it was
  let w₁ : World := { w with trace := w.trace ++ [.kill (-pid) .sigterm] }
  have h₁ : (killGroup pid .sigterm).run w = .ok () w₁ := by simp [killGroup, w₁]
  have hf₁ : OsFrame w w₁ := ⟨w.tick, w.children, _, fun _ => .refl _, rfl⟩
  obtain ⟨w₂, h₂, hf₂, ht₂, hc₂⟩ := pollExit_run hpid 50 w₁ hlive
  have hsame : exitsWithin w₁ pid 50 = exitsWithin w pid 50 := rfl
  rw [hsame] at h₂ ht₂ hc₂
  by_cases hg : exitsWithin w pid 50 = true
  · refine ⟨w₂, by simp [escalate, h₁, h₂, hg], hf₁.trans hf₂, ?_, by simp [hc₂, hg]⟩
    simp [ht₂, hg, w₁]
  · -- the polls ran out: the child never exited, and `SIGKILL` ends it
    have hrun : w₂.children pid = .running := by
      rcases hlive with h | h
      · simpa [hg, w₁, h] using hc₂
      · exact absurd (by simp [exitsWithin, h]; exact ⟨0, by norm_num⟩) hg
    obtain ⟨w₃, h₃, hf₃, ht₃, hc₃⟩ := killGroup_frame w₂ pid .sigkill
    simp only [hrun, and_self, if_true] at hc₃
    refine ⟨w₃.reap pid, ?_,
      hf₁.trans (hf₂.trans (hf₃.trans (World.reap_frame (by rw [hc₃]; decide)))), ?_,
      by simp [World.reap]⟩
    · simp [escalate, h₁, h₂, hg, h₃, waitpidBlocking_spec, hc₃]
    · simp [World.reap, ht₃, ht₂, hg, w₁]

/-- `terminate` on a forked child that is not yet reaped. It sends `SIGTERM` to the group. If
one of the fifty polls reaps the child, it returns `Graceful termination`. Otherwise it sends
`SIGKILL` to the group, reaps the child with a blocking `waitpid` and returns `Force killed`.
When it returns, the child is reaped, the watchdog is stopped and joined, `pid_` is `-1` and
`terminated_` is set, and every later call answers `Not running` with nothing sent. The
assignment of the method's name may throw `std::bad_alloc`: then nothing returns, and the
child is still reaped. -/
theorem terminate_escalation (w : World) (hpid : 0 < w.proc.pid) (ht : w.proc.terminated = false)
    (hlive : w.children w.proc.pid = .running ∨ w.children w.proc.pid = .zombie) :
    ∃ w', w'.trace = w.trace ++ .kill (-w.proc.pid) .sigterm ::
          ((if exitsWithin w w.proc.pid 50 then [] else [.kill (-w.proc.pid) .sigkill]) ++
            [.reap w.proc.pid]) ∧
      w'.children w.proc.pid = .reaped ∧
      (w.env.fails .terminate (w.calls .terminate) = false →
        terminate.run w = .ok (if exitsWithin w w.proc.pid 50 then ascii "Graceful termination"
          else ascii "Force killed") w' ∧
        w'.proc.stopMonitoring = true ∧ w'.proc.monitor = .none ∧ w'.proc.pid = -1 ∧
        w'.proc.terminated = true ∧ terminate.run w' = .ok (ascii "Not running") w') ∧
      (w.env.fails .terminate (w.calls .terminate) = true →
        ∃ w₁, terminate.run w = .error (.std (w.env.what .terminate)) w₁ ∧
          w₁.children w.proc.pid = .reaped) := by
  obtain ⟨p, hp⟩ : ∃ p, w.process = some p := by
    rcases hp : w.process with _ | p
    · simp [World.proc, hp, WireProxyProcess.new] at hpid
    · exact ⟨p, rfl⟩
  obtain ⟨w₁, he, hf, htr, hc⟩ := escalate_run hpid hlive
  have hrun := terminate_of_escalate (by omega) ht he hf
  rw [hp] at hrun
  refine ⟨{ w₁ with
    calls := Function.update w.calls .terminate (w.calls .terminate + 1)
    process := some { p with
      stopMonitoring := true, monitor := .none, terminated := true, pid := -1, configPath := [] } },
    htr, hc, fun hfail => ?_, fun hfail => ?_⟩
  · rw [hrun, hfail, if_neg Bool.false_ne_true]
    exact ⟨rfl, rfl, rfl, rfl, rfl, by simp [terminate, World.proc]⟩
  · rw [hrun, hfail, if_pos rfl]
    exact ⟨_, rfl, hc⟩

/-- A child `2` that ignores `SIGTERM` is killed after the fifty polls. -/
theorem terminate_escalation_ignored :
    let w : World := { World.init .quiet with
      process := some { WireProxyProcess.new with pid := 2, terminated := false }
      children := Function.update (World.init .quiet).children 2 .running }
    (0 < w.proc.pid ∧ w.proc.terminated = false ∧
      (w.children w.proc.pid = .running ∨ w.children w.proc.pid = .zombie)) ∧
    ∃ w', terminate.run w = .ok (ascii "Force killed") w' ∧
      w'.trace = [.kill (-2) .sigterm, .kill (-2) .sigkill, .reap 2] := by
  intro w
  have hpid : 0 < w.proc.pid := by decide
  have hlive : w.children w.proc.pid = .running := by decide
  have hquiet : exitsWithin w w.proc.pid 50 = false := by decide
  obtain ⟨w', htr, -, hok, -⟩ := terminate_escalation w hpid rfl (.inl hlive)
  refine ⟨⟨hpid, rfl, .inl hlive⟩, w', ?_, ?_⟩
  · simpa [hquiet] using (hok rfl).1
  · simpa [hquiet] using htr

end WireProxyProcess

end Wpmd
