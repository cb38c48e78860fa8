import WpDaemon.Json

/-!
# UTF-8 and the serializer

What the strict error handler of `dump` accepts, stated as laws of the decoder: it stands
between two characters only at `UTF8_ACCEPT`, a continuation byte is never ASCII, so a string
cut at an ASCII byte is UTF-8 exactly when both pieces are, and UTF-8 strings put together
stay UTF-8. From these, a value serializes exactly when every string in it, keys included,
is UTF-8; for a reply, when its command name and its `result` and `error` do.
-/

namespace Wpmd

namespace Utf8Decoder

/-- What holds of every decoder state reached from `UTF8_ACCEPT`: it owes no byte only at
`UTF8_ACCEPT` itself, and the byte it waits for is never ASCII. -/
structure Reached (d : Utf8Decoder) : Prop where
  accept_of_owed : d.owed = 0 → d = accept
  low : 0x80 ≤ d.low

theorem reached_accept : accept.Reached := ⟨fun _ => rfl, by decide⟩

/-- A guard of `step` only chooses between results; each result is reached whichever guard
selects it. -/
private theorem reached_of_ite {c : Prop} [Decidable c] {x y : Option Utf8Decoder}
    (hx : ∀ d, x = some d → d.Reached) (hy : ∀ d, y = some d → d.Reached) :
    ∀ d, (if c then x else y) = some d → d.Reached := by
  split
  · exact hx
  · exact hy

/-- Every state `step` returns is one the decoder reaches. -/
theorem reached_of_step {d d' : Utf8Decoder} {b : UInt8} (h : d.step b = some d') : d'.Reached := by
  unfold Utf8Decoder.step at h
  revert d'
  repeat' apply reached_of_ite
  all_goals rintro _ ⟨⟩
  all_goals first
    | exact reached_accept
    | exact ⟨fun h => absurd h (by decide), by decide⟩
    | exact ⟨fun h => by simp_all [accept], UInt8.le_refl _⟩

theorem run_append (d : Utf8Decoder) (s t : Bytes) : d.run (s ++ t) = (d.run s).bind (·.run t) := by
  induction s generalizing d with
  | nil => rfl
  | cons b s ih => cases h : d.step b <;> simp [run, h, ih]

theorem Reached.run {d d' : Utf8Decoder} {s : Bytes} (hd : d.Reached) (h : d.run s = some d') :
    d'.Reached := by
  induction s generalizing d with
  | nil => cases h; exact hd
  | cons b s ih =>
    cases hb : d.step b with
    | none => simp [Utf8Decoder.run, hb] at h
    | some d₁ => exact ih (reached_of_step hb) (by simpa [Utf8Decoder.run, hb] using h)

/-- An ASCII byte is a whole character: taken between two characters, and refused inside one. -/
theorem Reached.step_ascii {d : Utf8Decoder} {b : UInt8} (hd : d.Reached) (hb : b ≤ 0x7F) :
    d.step b = if d.owed = 0 then some accept else none := by
  have hlow : ¬d.low ≤ b := fun h => absurd (UInt8.le_trans hd.low (UInt8.le_trans h hb)) (by decide)
  by_cases h0 : d.owed = 0 <;> simp [Utf8Decoder.step, h0, hb, hlow]

end Utf8Decoder

open Utf8Decoder

/-- A string is UTF-8 exactly when the decoder, started between two characters, ends there. -/
theorem utf8Valid_iff {s : Bytes} : utf8Valid s = true ↔ accept.run s = some accept := by
  unfold utf8Valid
  cases h : accept.run s with
  | none => simp
  | some d =>
    simp only [Option.any_some, beq_iff_eq, Option.some.injEq]
    exact ⟨(reached_accept.run h).accept_of_owed, fun h => h ▸ rfl⟩

@[simp] theorem utf8Valid_nil : utf8Valid [] = true := rfl

/-- A string cut at an ASCII byte is UTF-8 exactly when both pieces are. -/
theorem utf8Valid_append_ascii {b : UInt8} (hb : b ≤ 0x7F) (x y : Bytes) :
    utf8Valid (x ++ b :: y) = (utf8Valid x && utf8Valid y) := by
  unfold utf8Valid
  rw [run_append]
  cases hx : accept.run x with
  | none => rfl
  | some d =>
    have hd := reached_accept.run hx
    by_cases h0 : d.owed = 0
    · obtain rfl := hd.accept_of_owed h0
      simp [Utf8Decoder.run, hd.step_ascii hb, h0]
    · simp [Utf8Decoder.run, hd.step_ascii hb, h0]

theorem utf8Valid_cons_ascii {b : UInt8} (hb : b ≤ 0x7F) (y : Bytes) :
    utf8Valid (b :: y) = utf8Valid y := by
  simpa using utf8Valid_append_ascii hb [] y

/-- UTF-8 strings put together are UTF-8. -/
theorem utf8Valid_append {x y : Bytes} (hx : utf8Valid x = true) (hy : utf8Valid y = true) :
    utf8Valid (x ++ y) = true := by
  rw [utf8Valid_iff] at *
  simp [run_append, hx, hy]

/-- A string of ASCII bytes is UTF-8. -/
theorem utf8Valid_of_ascii {s : Bytes} (h : ∀ b ∈ s, b ≤ 0x7F) : utf8Valid s = true := by
  induction s with
  | nil => rfl
  | cons b s ih =>
    rw [utf8Valid_cons_ascii (h b (List.mem_cons_self b s))]
    exact ih fun c hc => h c (List.mem_cons_of_mem b hc)

/-- A text of characters below 128 is ASCII. -/
theorem utf8Valid_ascii {s : String} (h : ∀ c ∈ s.toList, c.toNat < 128) :
    utf8Valid (ascii s) = true :=
  utf8Valid_of_ascii fun b hb => by
    obtain ⟨c, hc, rfl⟩ := List.mem_map.mp hb
    have hlt := h c hc
    rw [UInt8.le_def, BitVec.le_def]
    show c.val.toNat % 256 ≤ 127
    simp only [Char.toNat] at hlt
    omega

/-- `std::to_string` of an integer is ASCII. -/
theorem utf8Valid_decimal (n : Int) : utf8Valid (decimal n) = true :=
  utf8Valid_of_ascii fun b hb => by
    rw [UInt8.le_def, BitVec.le_def]
    rcases decimal_digits hb with rfl | ⟨-, h⟩
    · decide
    · simpa using h.trans (by decide : 57 ≤ 127)

section Dump

@[simp] theorem Json.dump_null_isSome : Json.null.dump.isSome = true := rfl

@[simp] theorem Json.dump_boolean_isSome (b : Bool) : (Json.boolean b).dump.isSome = true := rfl

@[simp] theorem Json.dump_number_isSome (n : Int) : (Json.number n).dump.isSome = true := rfl

/-- A string serializes exactly when it is UTF-8. -/
@[simp] theorem Json.dump_string_isSome (s : Bytes) : (Json.string s).dump.isSome = utf8Valid s := by
  by_cases h : utf8Valid s = true <;> simp [Json.dump, dumpString, h]

theorem Json.dumpItems_isSome (items : List Json) :
    (Json.dump.dumpItems items).isSome ↔ ∀ j ∈ items, j.dump.isSome := by
  induction items with
  | nil => simp [Json.dump.dumpItems]
  | cons j js ih => cases hj : j.dump <;> simp [Json.dump.dumpItems, hj, ih]

theorem Json.dumpFields_isSome (fields : List (Bytes × Json)) :
    (Json.dump.dumpFields fields).isSome ↔ ∀ f ∈ fields, utf8Valid f.1 ∧ f.2.dump.isSome := by
  induction fields with
  | nil => simp [Json.dump.dumpFields]
  | cons f fs ih =>
    obtain ⟨k, j⟩ := f
    by_cases hk : utf8Valid k = true <;> cases hj : j.dump <;>
      simp [Json.dump.dumpFields, dumpString, hk, hj, ih]

/-- An array serializes exactly when each of its elements does. -/
@[simp] theorem Json.dump_array_isSome (items : List Json) :
    (Json.array items).dump.isSome ↔ ∀ j ∈ items, j.dump.isSome := by
  simp [Json.dump, Json.dumpItems_isSome]

/-- An object serializes exactly when each of its keys is UTF-8 and each of its values
serializes. -/
@[simp] theorem Json.dump_object_isSome (fields : List (Bytes × Json)) :
    (Json.object fields).dump.isSome ↔ ∀ f ∈ fields, utf8Valid f.1 ∧ f.2.dump.isSome := by
  simp [Json.dump, Json.dumpFields_isSome]

/-- A reply serializes exactly when its command name is UTF-8 and its `result` and `error`
serialize. -/
theorem reply_dump_isSome (cmd : Bytes) (result error : Json) :
    (reply cmd result error).dump.isSome ↔
      utf8Valid cmd ∧ result.dump.isSome ∧ error.dump.isSome := by
  have hkeys : utf8Valid (ascii "CMD") ∧ utf8Valid (ascii "result") ∧ utf8Valid (ascii "error") := by
    decide
  simp [reply, hkeys]

end Dump

end Wpmd
