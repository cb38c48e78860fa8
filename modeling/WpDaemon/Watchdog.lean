import WpDaemon.Bytes

/-!
# The network watchdog

`WireProxyProcess::monitor_log_for_network_errors` tails the session log from its end.
Each turn of its loop is one `std::getline`: a line it reads is classified, and a failed read
is followed by `clear()` and a 100 ms sleep. A line with `network is unreachable` or
`can't assign requested address` adds one to `consecutive_errors`, and at `ERROR_THRESHOLD`
the thread sets `network_drop_detected_`, signals the group and returns (that step is
`WireProxyProcess.monitorTrips`). Any other line resets the count unless it contains
`ERROR:` anywhere.

`std::getline` that reaches the end of the file inside a line returns the bytes it has read
as a line, with `eofbit` set. So a poll that falls between two writes of one line classifies
each part on its own.

The startup (the 500 ms sleep, the empty-path and open-failure returns, the seek to the end)
is left out: the model starts at the tail. The stop flag ends the schedule.
-/

namespace Wpmd

namespace WireProxyProcess

/-- `ERROR_THRESHOLD`. -/
def errorThreshold : Nat := 5

/-- `std::regex_search` with `network_unreachable` or `cant_assign_address`. Neither pattern
has a special character, so each search is a substring test. -/
def isNetworkError (line : Bytes) : Bool :=
  containsBytes (ascii "network is unreachable") line ||
    containsBytes (ascii "can\x27t assign requested address") line

/-- `consecutive_errors` after one more line. -/
def countLine (consecutive : Nat) (line : Bytes) : Nat :=
  if isNetworkError line then consecutive + 1
  else if containsBytes (ascii "ERROR:") line then consecutive
  else 0

/-- The classifying loop over the lines read, from a count: how many lines it has read when
the count of a network error reaches the threshold, if it does. -/
def scanLines (consecutive : Nat) : List Bytes → Option Nat
  | [] => none
  | line :: rest =>
    if isNetworkError line ∧ errorThreshold ≤ countLine consecutive line then some 1
    else (scanLines (countLine consecutive line) rest).map (· + 1)

/-! ### The trip law -/

/-- A line that resets the count: neither a network error nor a line containing `ERROR:`. -/
def resetsCount (line : Bytes) : Bool :=
  !isNetworkError line && !containsBytes (ascii "ERROR:") line

/-- The network errors among the lines after the last line that resets the count. -/
def errorsSinceReset (lines : List Bytes) : Nat :=
  ((lines.reverse.takeWhile fun line => !resetsCount line).filter isNetworkError).length

/-- The law's condition at the end of the lines read so far: the last one is a network error,
and at least `ERROR_THRESHOLD` network errors follow the last reset. -/
def tripsOn (pre : List Bytes) : Bool :=
  match pre.getLast? with
  | some line => isNetworkError line && decide (errorThreshold ≤ errorsSinceReset pre)
  | none => false

/-- The condition of the loop, from any count. -/
private def tripsFrom (consecutive : Nat) (pre : List Bytes) : Bool :=
  match pre.getLast? with
  | some line => isNetworkError line && decide (errorThreshold ≤ pre.foldl countLine consecutive)
  | none => false

theorem errorsSinceReset_append_singleton (pre : List Bytes) (line : Bytes) :
    errorsSinceReset (pre ++ [line]) = countLine (errorsSinceReset pre) line := by
  unfold errorsSinceReset countLine resetsCount
  cases hn : isNetworkError line <;> cases he : containsBytes (ascii "ERROR:") line <;>
    simp [List.takeWhile_cons, hn, he]

/-- The counter after some lines is the number of network errors since the last reset. -/
theorem foldl_countLine (pre : List Bytes) : pre.foldl countLine 0 = errorsSinceReset pre := by
  induction pre using List.reverseRecOn with
  | nil => rfl
  | append_singleton pre line ih =>
    rw [List.foldl_append, ih, errorsSinceReset_append_singleton]
    rfl

/-- Past a first line at which the loop does not trip, the condition is the one of the rest
from the next count. -/
private theorem tripsFrom_cons {c : Nat} {line : Bytes} (h : tripsFrom c [line] = false)
    (xs : List Bytes) : tripsFrom c (line :: xs) = tripsFrom (countLine c line) xs := by
  cases xs with
  | nil => simpa [tripsFrom] using h
  | cons x xs => simp [tripsFrom, List.getLast?_cons_cons]

private theorem scanLines_eq_some_iff_from (c : Nat) (lines : List Bytes) (k : Nat) :
    scanLines c lines = some k ↔
      k ≤ lines.length ∧ tripsFrom c (lines.take k) ∧ ∀ i < k, tripsFrom c (lines.take i) = false := by
  induction lines generalizing c k with
  | nil => simp [scanLines, tripsFrom]
  | cons line rest ih =>
    by_cases h1 : tripsFrom c [line] = true
    · have h1' : isNetworkError line = true ∧ errorThreshold ≤ countLine c line := by
        simpa [tripsFrom] using h1
      simp only [scanLines, h1', and_self, if_true, Option.some.injEq]
      constructor
      · rintro rfl
        refine ⟨by simp, h1, fun i hi => ?_⟩
        obtain rfl : i = 0 := by omega
        rfl
      · rintro ⟨-, hk, hall⟩
        rcases k with _ | _ | k
        · simp [tripsFrom] at hk
        · rfl
        · simpa [h1] using hall 1 (by omega)
    · have h1' : ¬(isNetworkError line = true ∧ errorThreshold ≤ countLine c line) := by
        simpa [tripsFrom] using h1
      simp only [scanLines, h1', if_false]
      have hstep := tripsFrom_cons (Bool.eq_false_iff.mpr h1)
      rcases k with _ | j
      · simp [tripsFrom]
      · simp only [Option.map_eq_some', Nat.add_right_cancel_iff, exists_eq_right, ih,
          List.length_cons, List.take_succ_cons, hstep, Nat.forall_lt_succ_left, List.take_zero]
        simp [tripsFrom]

/-- The watchdog trips right after reading the `k`-th line exactly when that line is a network
error with at least `ERROR_THRESHOLD` network errors since the last line that resets the
count, and no earlier line is. A line resets the count when it is not a network error and
does not contain `ERROR:` anywhere. -/
theorem scanLines_eq_some_iff {lines : List Bytes} {k : Nat} :
    scanLines 0 lines = some k ↔
      k ≤ lines.length ∧ tripsOn (lines.take k) ∧ ∀ i < k, tripsOn (lines.take i) = false := by
  have h (pre : List Bytes) : tripsFrom 0 pre = tripsOn pre := by
    simp only [tripsFrom, tripsOn, foldl_countLine]
  simpa only [h] using scanLines_eq_some_iff_from 0 lines k

/-- Four network errors, a line with `ERROR:` inside it, and a fifth network error trip the
watchdog at the sixth line, although the fifth line does not begin with `ERROR:`. -/
theorem scanLines_trips_after_inner_error :
    scanLines 0 [ascii "network is unreachable", ascii "network is unreachable",
      ascii "network is unreachable", ascii "network is unreachable", ascii "x ERROR: y",
      ascii "network is unreachable"] = some 6 ∧
    isNetworkError (ascii "x ERROR: y") = false ∧
    (ascii "ERROR:").isPrefixOf (ascii "x ERROR: y") = false := by
  decide

/-! ### The tail -/

/-- The `std::ifstream` the watchdog reads: its position in the log and its `eofbit`. -/
structure Tail where
  pos : Nat
  eof : Bool
  deriving DecidableEq, Repr

/-- `std::getline(log_file, line)` on the log's content: the line read, if the read does not
fail. A read that reaches the end inside a line returns what it read and sets `eofbit`; with
`eofbit` set, or with nothing left, the read fails. -/
def getline (content : Bytes) (t : Tail) : Option Bytes × Tail :=
  if t.eof then (none, t)
  else
    let rest := content.drop t.pos
    match findByte newline rest with
    | some i => (some (rest.take i), { t with pos := t.pos + i + 1 })
    | none => if rest.isEmpty then (none, { t with eof := true }) else (some rest, ⟨content.length, true⟩)

/-- One turn of the loop: a line to classify, or `clear()` and a sleep after a failed read. -/
def poll (content : Bytes) (t : Tail) : Option Bytes × Tail :=
  match getline content t with
  | (some line, t') => (some line, t')
  | (none, t') => (none, { t' with eof := false })

/-- What happens to the log while the watchdog tails it: the child appends bytes, or the
watchdog takes a turn. -/
inductive TailEvent
  | write (chunk : Bytes)
  | poll
  deriving DecidableEq, Repr

/-- The strings the watchdog classifies along a schedule. -/
def tailLines (content : Bytes) (t : Tail) : List TailEvent → List Bytes
  | [] => []
  | .write chunk :: rest => tailLines (content ++ chunk) t rest
  | .poll :: rest =>
    let (line, t') := poll content t
    line.toList ++ tailLines content t' rest

/-- The bytes the child writes along a schedule. -/
def writesOf : List TailEvent → Bytes
  | [] => []
  | .write chunk :: rest => chunk ++ writesOf rest
  | .poll :: rest => writesOf rest

/-- The `'\n'`-terminated lines of a byte string, without their newline; `current` is the
part of a line already seen. -/
def linesOf (current : Bytes) : Bytes → List Bytes
  | [] => []
  | b :: s => if b = newline then current :: linesOf [] s else linesOf (current ++ [b]) s

/-- `monitor_log_for_network_errors` from the moment it tails a log with `content`: how many
strings it has classified when it trips, if it trips before the schedule ends. -/
def monitorLogForNetworkErrors (content : Bytes) (schedule : List TailEvent) : Option Nat :=
  scanLines 0 (tailLines content ⟨content.length, false⟩ schedule)

/-- The same five lines of network errors trip the watchdog when each arrives in one write,
and never when a poll falls inside each line. -/
theorem monitor_trip_depends_on_split :
    writesOf (List.replicate 5 [.write (ascii "network is unreachable\n"), .poll]).flatten =
      writesOf (List.replicate 5 [.write (ascii "network is "), .poll, .poll,
        .write (ascii "unreachable\n"), .poll]).flatten ∧
    monitorLogForNetworkErrors []
      (List.replicate 5 [.write (ascii "network is unreachable\n"), .poll]).flatten = some 5 ∧
    monitorLogForNetworkErrors [] (List.replicate 5 [.write (ascii "network is "), .poll, .poll,
      .write (ascii "unreachable\n"), .poll]).flatten = none := by
  decide

/-! ### Whole-line writes -/

/-- A byte string that is empty or ends with a newline. -/
def WholeLines (s : Bytes) : Prop := s = [] ∨ s.getLast? = some newline

theorem WholeLines.append {a b : Bytes} (ha : WholeLines a) (hb : WholeLines b) :
    WholeLines (a ++ b) := by
  rcases hb with rfl | hb
  · simpa using ha
  · exact .inr (by rw [List.getLast?_append, hb]; rfl)

/-- A non-empty string of whole lines is a first line, its newline, and whole lines. -/
theorem WholeLines.split {s : Bytes} (hs : WholeLines s) (hne : s ≠ []) :
    ∃ l r, s = l ++ newline :: r ∧ newline ∉ l ∧ WholeLines r := by
  induction s with
  | nil => exact absurd rfl hne
  | cons b s ih =>
    by_cases hb : b = newline
    · refine ⟨[], s, by simp [hb], by simp, ?_⟩
      rcases s with _ | ⟨c, s⟩
      · exact .inl rfl
      · exact .inr (by simpa [List.getLast?_cons_cons] using hs.resolve_left (List.cons_ne_nil _ _))
    · have hs' : s ≠ [] := by
        rintro rfl
        simp [WholeLines, hb] at hs
      obtain ⟨l, r, rfl, hl, hr⟩ := ih (.inr (by
        obtain ⟨c, s, rfl⟩ := List.exists_cons_of_ne_nil hs'
        simpa [List.getLast?_cons_cons] using hs.resolve_left (List.cons_ne_nil _ _))) hs'
      exact ⟨b :: l, r, rfl, by simp [Ne.symm hb, hl], hr⟩

theorem linesOf_append_line (current : Bytes) {l : Bytes} (hl : newline ∉ l) (r : Bytes) :
    linesOf current (l ++ newline :: r) = (current ++ l) :: linesOf [] r := by
  induction l generalizing current with
  | nil => simp [linesOf]
  | cons c l ih =>
    have hc : c ≠ newline := fun h => hl (h ▸ List.mem_cons_self c l)
    simp [linesOf, hc, ih _ (fun h => hl (List.mem_cons_of_mem c h))]

/-- The tail stands at the start of a line, with `eofbit` clear. -/
structure TailAtLine (content : Bytes) (t : Tail) : Prop where
  eof : t.eof = false
  pos : t.pos ≤ content.length
  whole : WholeLines (content.drop t.pos)

theorem poll_of_empty {content : Bytes} {t : Tail} (heof : t.eof = false)
    (h : content.drop t.pos = []) : poll content t = (none, t) := by
  cases t
  simp only at heof h
  simp [poll, getline, heof, h]

theorem poll_of_line {content : Bytes} {t : Tail} {l r : Bytes} (heof : t.eof = false)
    (hl : newline ∉ l) (h : content.drop t.pos = l ++ newline :: r) :
    poll content t = (some l, ⟨t.pos + l.length + 1, false⟩) := by
  cases t
  simp_all [poll, getline, findByte_append_cons hl]

/-- From the start of a line with bytes left, a poll reads that line and stops at the start of
the next. -/
theorem TailAtLine.poll_next {content : Bytes} {t : Tail} (hinv : TailAtLine content t)
    (hne : content.drop t.pos ≠ []) :
    ∃ l r t', content.drop t.pos = l ++ newline :: r ∧ newline ∉ l ∧
      poll content t = (some l, t') ∧ TailAtLine content t' ∧ content.drop t'.pos = r := by
  obtain ⟨l, r, hlr, hl, hr⟩ := hinv.whole.split hne
  have hdrop : content.drop (t.pos + l.length + 1) = r := by
    rw [Nat.add_assoc, ← List.drop_drop, hlr]; simp
  have hlen : t.pos + l.length + 1 ≤ content.length := by
    have := congrArg List.length hlr
    simp at this; omega
  exact ⟨l, r, _, hlr, hl, poll_of_line hinv.eof hl hlr, ⟨rfl, hlen, hdrop ▸ hr⟩, hdrop⟩

/-- From a tail at the start of a line, `n` polls with nothing written read the first `n` lines
that follow the tail, or all of them when fewer are left. -/
theorem tailLines_polls {content : Bytes} {t : Tail} (hinv : TailAtLine content t) (n : Nat) :
    tailLines content t (List.replicate n .poll) = (linesOf [] (content.drop t.pos)).take n := by
  induction n generalizing t with
  | zero => rfl
  | succ n ih =>
    by_cases hne : content.drop t.pos = []
    · simpa [tailLines, poll_of_empty hinv.eof hne, hne, linesOf] using ih hinv
    · obtain ⟨l, r, t', hlr, hl, hpoll, hinv', hdrop⟩ := hinv.poll_next hne
      simpa [tailLines, hpoll, hlr, linesOf_append_line _ hl, hdrop] using ih hinv'

/-- From a tail at the start of a line, when each write ends a line, the strings the watchdog
classifies along a schedule are the first lines of what follows the tail, in order, and each
poll after the schedule reads the next of them while one is left. -/
theorem tailLines_take {content : Bytes} {t : Tail} (hinv : TailAtLine content t)
    (schedule : List TailEvent) (hw : ∀ chunk, .write chunk ∈ schedule → WholeLines chunk)
    (n : Nat) :
    tailLines content t (schedule ++ List.replicate n .poll) =
      (linesOf [] (content.drop t.pos ++ writesOf schedule)).take
        ((tailLines content t schedule).length + n) := by
  induction schedule generalizing content t with
  | nil => simpa [writesOf, tailLines] using tailLines_polls hinv n
  | cons e schedule ih =>
    have hw' := fun chunk (h : TailEvent.write chunk ∈ schedule) =>
      hw chunk (List.mem_cons_of_mem _ h)
    cases e with
    | write chunk =>
      have hdrop : (content ++ chunk).drop t.pos = content.drop t.pos ++ chunk :=
        List.drop_append_of_le_length hinv.pos
      have hinv' : TailAtLine (content ++ chunk) t :=
        ⟨hinv.eof, by simp; have := hinv.pos; omega,
          hdrop ▸ hinv.whole.append (hw chunk (List.mem_cons_self _ _))⟩
      simpa [tailLines, writesOf, hdrop] using ih hinv' hw'
    | poll =>
      by_cases hne : content.drop t.pos = []
      · simpa [tailLines, poll_of_empty hinv.eof hne, hne, writesOf] using ih hinv hw'
      · obtain ⟨l, r, t', hlr, hl, hpoll, hinv', hdrop⟩ := hinv.poll_next hne
        rw [show (tailLines content t (.poll :: schedule)).length + n =
          (tailLines content t' schedule).length + n + 1 by simp [tailLines, hpoll]; omega]
        simpa [tailLines, hpoll, writesOf, hlr, linesOf_append_line _ hl, hdrop] using ih hinv' hw'

/-- When each write of the child ends with a newline, the watchdog classifies the lines the
child wrote after it started tailing, in order and whole: the strings it classifies along a
schedule are the first lines written, and `n` more polls classify the next `n` lines, or all
of them when fewer are left. -/
theorem monitor_reads_whole_lines (content : Bytes) (schedule : List TailEvent)
    (hw : ∀ chunk, .write chunk ∈ schedule → WholeLines chunk) (n : Nat) :
    tailLines content ⟨content.length, false⟩ (schedule ++ List.replicate n .poll) =
      (linesOf [] (writesOf schedule)).take
        ((tailLines content ⟨content.length, false⟩ schedule).length + n) := by
  have hinv : TailAtLine content ⟨content.length, false⟩ := ⟨rfl, le_refl _, by simp [WholeLines]⟩
  simpa using tailLines_take hinv schedule hw n

/-- One line in one write, then two polls, from an empty log. -/
theorem monitor_reads_whole_lines_one :
    (∀ chunk, .write chunk ∈ [TailEvent.write (ascii "network is unreachable\n")] →
      WholeLines chunk) ∧
    tailLines [] ⟨([] : Bytes).length, false⟩
        ([.write (ascii "network is unreachable\n")] ++ List.replicate 2 .poll) =
      (linesOf [] (writesOf [.write (ascii "network is unreachable\n")])).take
        ((tailLines [] ⟨([] : Bytes).length, false⟩
          [.write (ascii "network is unreachable\n")]).length + 2) := by
  have hw : ∀ chunk, .write chunk ∈ [TailEvent.write (ascii "network is unreachable\n")] →
      WholeLines chunk := by
    intro chunk h
    rw [List.mem_singleton, TailEvent.write.injEq] at h
    exact h ▸ .inr (by decide)
  exact ⟨hw, monitor_reads_whole_lines [] _ hw 2⟩

end WireProxyProcess

end Wpmd
