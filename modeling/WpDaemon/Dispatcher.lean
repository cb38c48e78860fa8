import WpDaemon.Machine
import WpDaemon.Supervisor

/-!
# What every command does to the state machine, and what every reply looks like

Each handler is followed along its `do` block, through every branch and every failure of
its collaborators, from every state. Two facts come out of the same walk. Every
`transition_to` the dispatcher makes is a move of the table: the guards of `spin_up`,
`spin_down` and `check_and_cleanup_process` fix the state at entry, every collaborator
leaves it alone, and each handler moves only from that state. And every reply has the keys
`CMD`, `result` and `error`, with the command's name and exactly one of a result and an
error message.
-/

namespace Wpmd

open CommandHandler

/-- A reply of `execute` for the command name `cmd`: the keys `CMD`, `result` and `error`,
`CMD` the name, and either a result with a null `error` or a null `result` with an error
message. -/
def ReplySchema (cmd : Bytes) (r : Json) : Prop :=
  ∃ result error, r = .object [(ascii "CMD", .string cmd), (ascii "result", result),
      (ascii "error", error)] ∧
    (result = .null ∧ (∃ message, error = .string message) ∨ result ≠ .null ∧ error = .null)

theorem errorReply_schema (cmd message : Bytes) : ReplySchema cmd (errorReply cmd message) :=
  ⟨.null, .string message, rfl, .inl ⟨rfl, message, rfl⟩⟩

theorem resultReply_schema (cmd : Bytes) (fields : List (Bytes × Json)) :
    ReplySchema cmd (resultReply cmd (.object fields)) :=
  ⟨.object fields, .null, rfl, .inr ⟨Json.noConfusion, rfl⟩⟩

/-- What a handler leaves: no move refused since the log read `r`, and a reply of the schema
for `cmd`. -/
def Answered (cmd : Bytes) (r : List (State × State)) (reply : Json) (w : World) : Prop :=
  w.refused = r ∧ ReplySchema cmd reply

variable (r : List (State × State))

/-- A triple that ends only in the answer the handler owes, with nothing refused on the way,
whatever state the machine was in at its throw. -/
private theorem Triple.answered {α : Type} {P : World → Prop} {m : Cmd α}
    {Q : α → World → Prop} {s : State} (h : Triple P m Q fun _ => Machine s r) :
    Triple P m Q fun _ w => w.refused = r :=
  h.conseq (fun _ h => h) (fun _ _ h => h) fun _ _ h => h.2

section SpinUp

/-- The `try` block of `spin_up` starts in `STARTING`, throws only there, and moves to `IDLE`
or `RUNNING` along the table. -/
theorem spinUpAttempt_spec (normalized : Bytes) :
    Triple (Machine .starting r) (spinUpAttempt normalized) (Answered (ascii "spin_up") r)
      fun _ => Machine .starting r :=
  .bind (getVersion_neutral _ _) fun _ =>
  .bind (createLog_neutral _ _ _ _) fun _ =>
  .bind (resetProcess_neutral _ _) fun _ =>
  .bind (.modify fun _ h => h) fun _ =>
  .get_bind fun _ _ =>
  .bind (WireProxyProcess.spawn_neutral _ _ _) fun _ =>
  .ite
    (fun _ => .bind (finalize_neutral _ _ _) fun _ => .bind (resetProcess_neutral _ _) fun _ =>
      .bind (.discard (transitionTo_valid .starting .idle rfl)) fun _ =>
      .pure fun _ h => ⟨h.2, errorReply_schema _ _⟩)
    fun _ => .pure_bind (.bind (sleepFor_neutral _ _) fun _ =>
      .bind (WireProxyProcess.isAlive_neutral _ _) fun _ =>
      .ite
        (fun _ => .get_bind fun _ _ => .bind (finalize_neutral _ _ _) fun _ =>
          .bind (resetProcess_neutral _ _) fun _ =>
          .bind (.discard (transitionTo_valid .starting .idle rfl)) fun _ =>
          .bind (setCurrentConfig_machine _ _ _) fun _ =>
          .pure fun _ h => ⟨h.2, errorReply_schema _ _⟩)
        fun _ => .pure_bind (.bind (setCurrentConfig_machine _ .starting r) fun _ =>
          .bind (.discard (transitionTo_valid .starting .running rfl)) fun _ =>
          .get_bind fun _ _ => .pure fun _ h => ⟨h.2, resultReply_schema _ _⟩))

/-- The `catch` block of `spin_up` runs in `STARTING` and moves to `IDLE`. -/
theorem spinUpRecover_spec (what : Bytes) :
    Triple (Machine .starting r) (spinUpRecover what) (Answered (ascii "spin_up") r)
      fun _ => Machine .starting r :=
  .get_bind fun _ _ => .ite_bind (finalize_neutral _ _ _) (.pure fun _ h => h) fun _ =>
  .bind (resetProcess_neutral _ _) fun _ =>
  .bind (.discard (transitionTo_valid .starting .idle rfl)) fun _ =>
  .bind (setCurrentConfig_machine _ _ _) fun _ => .pure fun _ h => ⟨h.2, errorReply_schema _ _⟩

/-- `spin_up` moves only from `IDLE`, which its guard checks. -/
theorem handleSpinUp_spec (configName : Bytes) (s : State) :
    Triple (Machine s r) (handleSpinUp configName) (Answered (ascii "spin_up") r)
      fun _ w => w.refused = r := by
  refine .get_bind fun w₀ h₀ =>
    .ite (fun _ => .pure fun _ h => ⟨h.2, errorReply_schema _ _⟩) fun hidle => ?_
  obtain rfl : s = .idle := h₀.1.symm.trans (not_not.mp hidle)
  have hexists : Triple (Machine .idle r)
      (ConfigManager.configExists (ConfigManager.normalizeConfigName configName))
      (fun _ => Machine .idle r) fun _ w => w.refused = r := .get_bind fun _ _ => by
    dsimp only
    split
    exacts [.throw fun _ h => h.2, .pure fun _ h => h]
  exact .pure_bind (.bind hexists fun _ =>
    .ite (fun _ => .pure fun _ h => ⟨h.2, errorReply_schema _ _⟩) fun _ =>
    .pure_bind (.bind (transitionTo_valid .idle .starting rfl) fun _ =>
      .ite (fun _ => .pure fun _ h => ⟨h.2, errorReply_schema _ _⟩) fun _ =>
      .pure_bind (.catchStd (spinUpAttempt_spec r _) (fun _ => (spinUpRecover_spec r _).answered r)
        fun _ h => h.2)))

end SpinUp

section SpinDown

/-- The `try` block of `spin_down` runs in `STOPPING` and moves to `IDLE`. -/
theorem spinDownAttempt_spec (prevConfig logPath : Bytes) :
    Triple (Machine .stopping r) (spinDownAttempt prevConfig logPath)
      (Answered (ascii "spin_down") r) fun _ => Machine .stopping r :=
  .bind (WireProxyProcess.terminate_neutral _ _) fun _ =>
  .bind (finalize_neutral _ _ _) fun _ => .bind (resetProcess_neutral _ _) fun _ =>
  .bind (setCurrentConfig_machine _ _ _) fun _ =>
  .bind (.discard (transitionTo_valid .stopping .idle rfl)) fun _ =>
  .pure fun _ h => ⟨h.2, resultReply_schema _ _⟩

/-- The `catch` block of `spin_down` runs in `STOPPING` and moves to `IDLE`. -/
theorem spinDownRecover_spec (what : Bytes) :
    Triple (Machine .stopping r) (spinDownRecover what) (Answered (ascii "spin_down") r)
      fun _ => Machine .stopping r :=
  .bind (resetProcess_neutral _ _) fun _ => .bind (setCurrentConfig_machine _ _ _) fun _ =>
  .bind (.discard (transitionTo_valid .stopping .idle rfl)) fun _ =>
  .pure fun _ h => ⟨h.2, errorReply_schema _ _⟩

/-- `spin_down` moves only from `RUNNING`, which its guard checks. -/
theorem handleSpinDown_spec (s : State) :
    Triple (Machine s r) handleSpinDown (Answered (ascii "spin_down") r)
      fun _ w => w.refused = r := by
  refine .get_bind fun w₀ h₀ =>
    .ite (fun _ => .pure fun _ h => ⟨h.2, errorReply_schema _ _⟩) fun hrun => ?_
  obtain rfl : s = .running := h₀.1.symm.trans (not_not.mp (not_or.mp hrun).1)
  exact .pure_bind (.bind (transitionTo_valid .running .stopping rfl) fun _ =>
    .ite (fun _ => .pure fun _ h => ⟨h.2, errorReply_schema _ _⟩) fun _ =>
    .pure_bind ((Triple.catchStd (spinDownAttempt_spec r _ _) (fun _ => spinDownRecover_spec r _)
      fun _ h => h).answered r))

end SpinDown

/-- `check_and_cleanup_process` moves only from `RUNNING`, which its guard checks. -/
theorem checkAndCleanupProcess_spec (s : State) :
    Triple (Machine s r) checkAndCleanupProcess (fun _ w => w.refused = r)
      fun _ w => w.refused = r := by
  refine .get_bind fun w₀ h₀ => .ite (fun hrun => ?_) fun _ => .pure_bind (.pure fun _ h => h.2)
  obtain rfl : s = .running := h₀.1.symm.trans hrun.1
  exact Triple.answered r (.bind (WireProxyProcess.isAlive_neutral _ _) fun _ =>
    .ite
      (fun _ => .bind (WireProxyProcess.hasNetworkDrop_neutral _ _) fun _ =>
        .bind (finalize_neutral _ _ _) fun _ => .bind (resetProcess_neutral _ _) fun _ =>
        .bind (setCurrentConfig_machine _ _ _) fun _ =>
        .bind (.discard (transitionTo_valid .running .idle rfl)) fun _ => .pure fun _ h => h.2)
      fun _ => .pure_bind (.pure fun _ h => h.2))

theorem handleState_spec (s : State) :
    Triple (Machine s r) handleState (Answered (ascii "state") r) fun _ w => w.refused = r :=
  .bind (.discard (checkAndCleanupProcess_spec r s)) fun _ => .get_bind fun _ _ =>
    .ite (fun _ => .pure fun _ h => ⟨h, resultReply_schema _ _⟩)
      fun _ => .pure_bind (.pure fun _ h => ⟨h, resultReply_schema _ _⟩)

theorem handleAvailableConfs_spec (s : State) :
    Triple (Machine s r) handleAvailableConfs (Answered (ascii "available_confs") r)
      fun _ w => w.refused = r :=
  Triple.answered r (.bind (listConfigs_neutral _ _) fun _ =>
    .pure fun _ h => ⟨h.2, resultReply_schema _ _⟩)

theorem handleWhoami_spec (s : State) :
    Triple (Machine s r) handleWhoami (Answered (ascii "whoami") r) fun _ w => w.refused = r :=
  .get_bind fun _ _ => .pure fun _ h => ⟨h.2, resultReply_schema _ _⟩

/-- Every branch of the dispatch answers for the command name it matched. -/
theorem dispatch_spec (cmd : Bytes) (args : List Bytes) (s : State) :
    Triple (Machine s r) (dispatch cmd args) (Answered cmd r) fun _ w => w.refused = r := by
  unfold dispatch
  refine .ite (fun h => ?_) fun _ => .ite (fun h => h ▸ handleSpinDown_spec r s) fun _ =>
    .ite (fun h => h ▸ handleState_spec r s) fun _ =>
    .ite (fun h => h ▸ handleAvailableConfs_spec r s) fun _ =>
    .ite (fun h => h ▸ handleWhoami_spec r s) fun _ =>
    .pure fun _ h => ⟨h.2, errorReply_schema _ _⟩
  cases args with
  | nil => exact .pure fun _ h => ⟨h.2, errorReply_schema _ _⟩
  | cons configName _ => exact h ▸ handleSpinUp_spec r configName s

/-- The command name `execute` answers for: `unknown` without a colon, else the text before
the first one. -/
def commandName (line : Bytes) : Bytes :=
  match findByte 58 line with
  | none => ascii "unknown"
  | some colonPos => line.take colonPos

theorem execute_spec (line : Bytes) (s : State) :
    Triple (Machine s r) (execute line) (Answered (commandName line) r) fun _ w => w.refused = r := by
  unfold execute commandName
  cases findByte 58 line with
  | none => exact .pure fun _ h => ⟨h.2, errorReply_schema _ _⟩
  | some colonPos =>
    exact .catchStd (dispatch_spec r _ _ s) (fun _ => .pure fun _ h => ⟨h, errorReply_schema _ _⟩)
      fun _ h => h

/-- The dispatcher never has a move refused: whatever the state, the line, and the failures
of `create_log`, `spawn`, `terminate`, `finalize` and the others at any call, every
`transition_to` that executing the line makes, whether `execute` replies or the process
ends in it, is a move of the table for the state at the call. -/
theorem execute_refuses_no_transition (w : World) (line : Bytes) :
    (afterLine w line).refused = w.refused := by
  have h := execute_spec w.refused line w.state w ⟨rfl, rfl⟩
  unfold afterLine
  split <;> simp_all [Answered]

/-- Every reply of `execute`, from every state and for every line, is an object with exactly
the keys `CMD`, `result` and `error`; exactly one of `result` and `error` is null, `error`
being a message when `result` is null; and `CMD` is `unknown` for a line without a colon and
otherwise the text before the first colon. -/
theorem execute_reply_schema (w : World) (line : Bytes) {reply : Json} {w' : World}
    (h : (execute line).run w = .ok reply w') :
    ReplySchema (match findByte 58 line with
      | none => ascii "unknown"
      | some colonPos => line.take colonPos) reply := by
  have hs := execute_spec w.refused line w.state w ⟨rfl, rfl⟩
  rw [h] at hs
  exact hs.2

theorem execute_reply_schema_state :
    ∃ reply w', (execute (ascii "state:\n")).run (World.init .quiet) = .ok reply w' ∧
      ReplySchema (ascii "state") reply := by
  obtain ⟨reply, w', h⟩ : ∃ reply w',
      (execute (ascii "state:\n")).run (World.init .quiet) = .ok reply w' := ⟨_, _, rfl⟩
  exact ⟨reply, w', h, execute_reply_schema _ _ h⟩

/-- No step of a run refuses a move. -/
theorem Step.refused_eq {w w' : World} {o : Option (Bytes × Json)} (h : Step w o w') :
    w'.refused = w.refused := by
  cases h with
  | execute hrun =>
    rename_i line _
    have hs := execute_spec w.refused line w.state w ⟨rfl, rfl⟩
    rw [hrun] at hs
    exact hs.1
  | childExits => rfl
  | monitorTrips _ _ hrun =>
    obtain ⟨q, t, htrip⟩ := WireProxyProcess.monitorTrips_frame w
    rw [hrun] at htrip
    cases htrip
    rfl

/-- No run refuses a move: the log of refused moves stays empty in every reachable world. -/
theorem Reachable.refused_eq_nil {w : World} (h : Reachable w) : w.refused = [] := by
  induction h with
  | init => rfl
  | step _ hs ih => exact hs.refused_eq.trans ih

end Wpmd
