import WpDaemon.TcpServer

/-!
# One reply, one line

`process_client` writes `response.dump() + "\n"` for every read, and a client reads the replies
back line by line. That works because `dump()` never writes a newline of its own: it escapes
every control byte of a string (a newline as the two characters `\` and `n`), writes numbers in
decimal and the rest of its syntax in printable ASCII. So the bytes a connection receives,
split at newlines, are the serialized replies `respond` computed, one for each read and in
order (`processClient_framing`).
-/

namespace Wpmd

section Dump

/-- A guard of `escapeByte` only chooses between outputs. -/
private theorem newline_not_mem_ite {c : Prop} [Decidable c] {x y : Bytes} (hx : c → newline ∉ x)
    (hy : ¬c → newline ∉ y) : newline ∉ if c then x else y := by
  split
  · exact hx ‹c›
  · exact hy ‹¬c›

/-- A digit of `%04x` is `0`-`9` or `a`-`f`. -/
theorem hexDigit_ne_newline {n : UInt8} (h : n.toNat < 16) : hexDigit n ≠ newline := by
  intro he
  have hn := congrArg UInt8.toNat he
  unfold hexDigit at hn
  split at hn <;> simp [newline, UInt8.add_def, UInt8.toNat, BitVec.toNat_add] at hn h <;> omega

/-- No byte of a string is escaped into a newline. -/
theorem newline_not_mem_escapeByte (b : UInt8) : newline ∉ escapeByte b := by
  unfold escapeByte
  iterate 7 refine newline_not_mem_ite (fun _ => by decide) fun _ => ?_
  refine newline_not_mem_ite (fun _ => ?_) fun _ => ?_
  · have hdiv : (b / 16).toNat < 16 := by
      rw [UInt8.toNat_div]
      exact Nat.div_lt_of_lt_mul (b.toNat_lt_size.trans_le (by decide))
    have hmod : (b % 16).toNat < 16 := by
      rw [UInt8.toNat_mod]
      exact Nat.mod_lt _ (by decide)
    simp only [List.mem_append, List.mem_cons, List.mem_singleton, not_or, List.not_mem_nil]
    exact ⟨by decide, (hexDigit_ne_newline hdiv).symm, (hexDigit_ne_newline hmod).symm, not_false⟩
  · simpa [newline] using Ne.symm ‹¬b = 0x0A›

theorem newline_not_mem_decimal (n : Int) : newline ∉ decimal n := fun h => by
  rcases decimal_digits h with h | ⟨h, -⟩
  · exact absurd h (by decide)
  · exact absurd h (by decide)

theorem newline_not_mem_dumpString {s t : Bytes} (h : dumpString s = some t) : newline ∉ t := by
  unfold dumpString at h
  split at h
  · cases h
    simp only [List.cons_append, List.mem_cons, List.mem_append, List.mem_flatten, List.mem_map,
      List.mem_singleton, not_or]
    refine ⟨by decide, ?_, by decide⟩
    rintro ⟨_, ⟨b, -, rfl⟩, hb⟩
    exact newline_not_mem_escapeByte b hb
  · cases h

/-- Every element of `intersperse sep parts` is `sep` or one of the parts. -/
private theorem mem_intersperse {sep l : Bytes} :
    ∀ {parts : List Bytes}, l ∈ parts.intersperse sep → l = sep ∨ l ∈ parts
  | [], h => by simp at h
  | [_], h => by simp_all
  | a :: b :: rest, h => by
    simp only [List.intersperse_cons₂, List.mem_cons] at h
    rcases h with rfl | rfl | h
    · simp
    · simp
    · rcases mem_intersperse h with h | h <;> simp [h]

theorem not_mem_intercalate {x : UInt8} {sep : Bytes} {parts : List Bytes} (hsep : x ∉ sep)
    (h : ∀ p ∈ parts, x ∉ p) : x ∉ sep.intercalate parts := by
  simp only [List.intercalate, List.mem_flatten, not_exists, not_and]
  intro l hl hx
  rcases mem_intersperse hl with rfl | hl
  · exact hsep hx
  · exact h l hl hx

mutual

/-- `dump()` writes no newline. -/
theorem Json.newline_not_mem_dump : ∀ (j : Json) {t : Bytes}, j.dump = some t → newline ∉ t
  | .null, _, h => by simp only [Json.dump, Option.some.injEq] at h; subst h; decide
  | .boolean b, _, h => by
    simp only [Json.dump, Option.some.injEq] at h; subst h; cases b <;> decide
  | .number n, _, h => by
    simp only [Json.dump, Option.some.injEq] at h; subst h; exact newline_not_mem_decimal n
  | .string _, _, h => newline_not_mem_dumpString h
  | .array items, _, h => by
    simp only [Json.dump, Option.map_eq_some'] at h
    obtain ⟨parts, hparts, rfl⟩ := h
    simp only [List.mem_append, not_or]
    exact ⟨⟨by decide, not_mem_intercalate (by decide) (newline_not_mem_dumpItems items hparts)⟩,
      by decide⟩
  | .object fields, _, h => by
    simp only [Json.dump, Option.map_eq_some'] at h
    obtain ⟨members, hmembers, rfl⟩ := h
    simp only [List.mem_append, not_or]
    refine ⟨⟨by decide, not_mem_intercalate (by decide) fun p hp => ?_⟩, by decide⟩
    obtain ⟨m, hm, rfl⟩ := List.mem_map.mp hp
    exact newline_not_mem_dumpFields fields hmembers m ((List.mem_insertionSort _).mp hm)

theorem newline_not_mem_dumpItems : ∀ (items : List Json) {parts : List Bytes},
    Json.dump.dumpItems items = some parts → ∀ p ∈ parts, newline ∉ p
  | [], _, h, p, hp => by
    simp only [Json.dump.dumpItems, Option.some.injEq] at h; subst h; simp at hp
  | j :: js, _, h, p, hp => by
    simp only [Json.dump.dumpItems, Option.bind_eq_some, Option.map_eq_some'] at h
    obtain ⟨a, ha, ps, hps, rfl⟩ := h
    rcases List.mem_cons.mp hp with rfl | hp
    · exact Json.newline_not_mem_dump j ha
    · exact newline_not_mem_dumpItems js hps p hp

theorem newline_not_mem_dumpFields : ∀ (fields : List (Bytes × Json)) {members : List (Bytes × Bytes)},
    Json.dump.dumpFields fields = some members → ∀ m ∈ members, newline ∉ m.2
  | [], _, h, m, hm => by
    simp only [Json.dump.dumpFields, Option.some.injEq] at h; subst h; simp at hm
  | (k, j) :: fs, _, h, m, hm => by
    simp only [Json.dump.dumpFields, Option.bind_eq_some, Option.map_eq_some'] at h
    obtain ⟨key, hkey, value, hvalue, ms, hms, rfl⟩ := h
    rcases List.mem_cons.mp hm with rfl | hm
    · simp only [List.mem_append, List.mem_cons, not_or]
      exact ⟨newline_not_mem_dumpString hkey, by decide, Json.newline_not_mem_dump j hvalue⟩
    · exact newline_not_mem_dumpFields fs hms m hm

end

end Dump

/-- Lines each closed by `x`, put together, are the lines and a last empty one joined by `x`. -/
theorem flatten_map_append_singleton (x : UInt8) :
    ∀ lines : List Bytes, (lines.map (· ++ [x])).flatten = [x].intercalate (lines ++ [[]])
  | [] => rfl
  | l :: ls => by
    obtain ⟨y, zs, hyz⟩ := List.exists_cons_of_ne_nil (by simp : ls ++ [([] : Bytes)] ≠ [])
    rw [List.map_cons, List.flatten_cons, flatten_map_append_singleton x ls, List.cons_append, hyz]
    simp [List.intercalate, List.intersperse_cons₂]

namespace TCPServer

/-- The replies `respond` computes for the reads of a connection, one after the other. -/
def respondAll : List Received → Cmd (List Json)
  | [] => pure []
  | d :: rest => do
    let r ← respond d.data
    return r :: (← respondAll rest)

/-- `writeReply` writes the reply's text and one newline and changes nothing, or ends the
process. -/
theorem writeReply_line {r : Json} {w w' : World} {text : Bytes}
    (h : (writeReply r).run w = .ok text w') :
    ∃ line, r.dump = some line ∧ text = line ++ [newline] ∧ w' = w := by
  unfold writeReply at h
  split at h
  · cases h
  · rename_i line hline
    cases h
    exact ⟨line, hline, rfl, rfl⟩

/-- A connection served to its end receives one text per read: the serialized reply `respond`
computed for that read, and a newline. -/
theorem processClient_replies {w w' : World} {reads : List Received} {texts : List Bytes}
    (h : (processClient reads).run w = .ok texts w') :
    ∃ (replies : List Json) (lines : List Bytes), (respondAll reads).run w = .ok replies w' ∧
      replies.map Json.dump = lines.map some ∧ texts = lines.map (· ++ [newline]) := by
  induction reads generalizing w texts with
  | nil =>
    cases h
    exact ⟨[], [], rfl, rfl, rfl⟩
  | cons d rest ih =>
    simp only [processClient, Cmd.run_bind] at h
    rcases hr : (respond d.data).run w with ⟨r, w₁⟩ | ⟨e, w₁⟩ <;> simp [hr] at h
    rcases hw : (writeReply r).run w₁ with ⟨text, w₂⟩ | ⟨e, w₂⟩ <;> simp [hw] at h
    rcases hp : (processClient rest).run w₂ with ⟨texts', w₃⟩ | ⟨e, w₃⟩ <;> simp [hp] at h
    obtain ⟨rfl, rfl⟩ := h
    obtain ⟨line, hline, rfl, rfl⟩ := writeReply_line hw
    obtain ⟨replies, lines, hall, hdumps, rfl⟩ := ih hp
    exact ⟨r :: replies, line :: lines, by simp [respondAll, hr, hall], by simp [hline, hdumps], rfl⟩

/-- A client that splits what a connection receives at newlines gets back the serialized
replies `respond` computed, one for each read and in order, and nothing after the last
newline. -/
theorem processClient_framing {w w' : World} {reads : List Received} {texts : List Bytes}
    (h : (processClient reads).run w = .ok texts w') :
    ∃ (replies : List Json) (lines : List Bytes), (respondAll reads).run w = .ok replies w' ∧
      replies.map Json.dump = lines.map some ∧ texts.flatten.splitOn newline = lines ++ [[]] := by
  obtain ⟨replies, lines, hall, hdumps, rfl⟩ := processClient_replies h
  have hfree : ∀ l ∈ lines ++ [[]], newline ∉ l := by
    intro l hl
    rcases List.mem_append.mp hl with hl | hl
    · obtain ⟨r, -, hr⟩ := List.mem_map.mp (hdumps ▸ List.mem_map_of_mem some hl :
        some l ∈ replies.map Json.dump)
      exact Json.newline_not_mem_dump r hr
    · simp_all
  exact ⟨replies, lines, hall, hdumps, by
    rw [flatten_map_append_singleton, List.splitOn_intercalate _ newline hfree (by simp)]⟩

/-- `state:` and `whoami:`, one read each, from the start. -/
theorem processClient_framing_quiet :
    ∃ texts w', (processClient [⟨ascii "state:\n", by decide, by decide⟩,
        ⟨ascii "whoami:\n", by decide, by decide⟩]).run (World.init .quiet) = .ok texts w' ∧
      ∃ (replies : List Json) (lines : List Bytes), (respondAll [⟨ascii "state:\n", by decide, by decide⟩,
          ⟨ascii "whoami:\n", by decide, by decide⟩]).run (World.init .quiet) = .ok replies w' ∧
        replies.map Json.dump = lines.map some ∧ texts.flatten.splitOn newline = lines ++ [[]] := by
  obtain ⟨texts, w', h⟩ : ∃ texts w', (processClient [⟨ascii "state:\n", by decide, by decide⟩,
      ⟨ascii "whoami:\n", by decide, by decide⟩]).run (World.init .quiet) = .ok texts w' :=
    ⟨_, _, rfl⟩
  exact ⟨texts, w', h, processClient_framing h⟩

end TCPServer

end Wpmd
