import WpDaemon.Utf8

/-!
# Reading a reply back: `nlohmann::json::parse`

`DaemonClient::send_command` reads the daemon's answer into a buffer and hands the text to
`nlohmann::json::parse`. The library reads it in two stages. The lexer turns bytes into
tokens. It skips whitespace, matches the literals byte by byte, checks every string byte
against the same UTF-8 ranges the serializer's decoder uses, decodes the escapes (`\uXXXX`
with surrogate pairs included), and runs the number automaton of `scan_number`. The parser
takes the tokens with a stack of open containers and builds the value. An object is a
`std::map`, so its members come out ordered by key, and a repeated key keeps the last value.

Both stages are written here as the automata they are: the lexer as one step per byte, the
parser as one step per token. `parse` succeeds on the text of every value `dump` writes and
gives back that value with its objects ordered as a `std::map` orders them
(`Json.parse_dump`).
-/

namespace Wpmd

/-- The tokens of nlohmann's lexer, `parse_error` and `end_of_input` apart. -/
inductive Token where
  | literalTrue
  | literalFalse
  | literalNull
  | valueString (s : Bytes)
  | valueUnsigned (n : Nat)
  | valueInteger (n : Int)
  | valueFloat
  | beginArray
  | beginObject
  | endArray
  | endObject
  | nameSeparator
  | valueSeparator
  deriving DecidableEq, Repr

namespace Lexer

/-- The labels of `scan_number`. -/
inductive NumberPhase where
  | minus
  | zero
  | any1
  | decimal1
  | decimal2
  | exponent
  | sign
  | any2
  deriving DecidableEq, Repr

/-- Where the lexer stands between two bytes. `ended` follows a NUL byte, which the lexer
takes for the end of input. -/
inductive State where
  | start
  | ended
  | literal (expected : Bytes) (token : Token)
  | string (acc : Bytes) (decoder : Utf8Decoder)
  | escape (acc : Bytes)
  | codepoint (acc : Bytes) (left value : Nat)
  | lowBackslash (acc : Bytes) (high : Nat)
  | lowU (acc : Bytes) (high : Nat)
  | lowCodepoint (acc : Bytes) (high left value : Nat)
  | number (phase : NumberPhase) (negative : Bool) (value : Nat)
  deriving DecidableEq, Repr

/-- A decimal digit. -/
def isDigit (b : UInt8) : Bool := 48 ≤ b && b ≤ 57

/-- The value of a hexadecimal digit of `get_codepoint`, either case. -/
def hexValue (b : UInt8) : Option Nat :=
  if 48 ≤ b ∧ b ≤ 57 then some (b.toNat - 0x30)
  else if 65 ≤ b ∧ b ≤ 70 then some (b.toNat - 0x37)
  else if 97 ≤ b ∧ b ≤ 102 then some (b.toNat - 0x57)
  else none

/-- The byte a two-character escape stands for. -/
def unescape (b : UInt8) : Option UInt8 :=
  if b = 34 then some 34
  else if b = 92 then some 92
  else if b = 47 then some 47
  else if b = 98 then some 0x08
  else if b = 102 then some 0x0C
  else if b = 110 then some 0x0A
  else if b = 114 then some 0x0D
  else if b = 116 then some 0x09
  else none

/-- The UTF-8 bytes `scan_string` adds for a decoded code point. -/
def utf8Encode (cp : Nat) : Bytes :=
  if cp < 0x80 then [cp.toUInt8]
  else if cp ≤ 0x7FF then [(0xC0 ||| (cp >>> 6)).toUInt8, (0x80 ||| (cp &&& 0x3F)).toUInt8]
  else if cp ≤ 0xFFFF then
    [(0xE0 ||| (cp >>> 12)).toUInt8, (0x80 ||| ((cp >>> 6) &&& 0x3F)).toUInt8,
      (0x80 ||| (cp &&& 0x3F)).toUInt8]
  else
    [(0xF0 ||| (cp >>> 18)).toUInt8, (0x80 ||| ((cp >>> 12) &&& 0x3F)).toUInt8,
      (0x80 ||| ((cp >>> 6) &&& 0x3F)).toUInt8, (0x80 ||| (cp &&& 0x3F)).toUInt8]

/-- The token of a finished number: `strtoull` for one without a sign, `strtoll` for one
with, and a double when it has a fraction or an exponent or does not fit. -/
def numberToken (phase : NumberPhase) (negative : Bool) (value : Nat) : Token :=
  match phase with
  | .zero | .any1 =>
    if negative then (if value ≤ 2 ^ 63 then .valueInteger (-value) else .valueFloat)
    else if value < 2 ^ 64 then .valueUnsigned value else .valueFloat
  | _ => .valueFloat

/-- `scan()` on the first byte of a token, after whitespace. -/
def startStep (b : UInt8) : Option (State × List Token) :=
  if b = 32 ∨ b = 9 ∨ b = 10 ∨ b = 13 then some (.start, [])
  else if b = 91 then some (.start, [.beginArray])
  else if b = 93 then some (.start, [.endArray])
  else if b = 123 then some (.start, [.beginObject])
  else if b = 125 then some (.start, [.endObject])
  else if b = 58 then some (.start, [.nameSeparator])
  else if b = 44 then some (.start, [.valueSeparator])
  else if b = 116 then some (.literal (ascii "rue") .literalTrue, [])
  else if b = 102 then some (.literal (ascii "alse") .literalFalse, [])
  else if b = 110 then some (.literal (ascii "ull") .literalNull, [])
  else if b = 34 then some (.string [] Utf8Decoder.accept, [])
  else if b = 45 then some (.number .minus true 0, [])
  else if b = 48 then some (.number .zero false 0, [])
  else if 49 ≤ b ∧ b ≤ 57 then some (.number .any1 false (b.toNat - 48), [])
  else if b = 0 then some (.ended, [])
  else none

/-- The end of a number at a byte that does not continue it: the byte is read again as the
start of the next token. -/
def numberDone (phase : NumberPhase) (negative : Bool) (value : Nat) (b : UInt8) :
    Option (State × List Token) :=
  (startStep b).map fun (s, out) => (s, numberToken phase negative value :: out)

/-- One byte of `scan_number`. -/
def numberStep (phase : NumberPhase) (negative : Bool) (value : Nat) (b : UInt8) :
    Option (State × List Token) :=
  let digit := b.toNat - 48
  let exp := b = 101 ∨ b = 69
  match phase with
  | .minus =>
    if b = 48 then some (.number .zero negative 0, [])
    else if 49 ≤ b ∧ b ≤ 57 then some (.number .any1 negative digit, [])
    else none
  | .zero =>
    if b = 46 then some (.number .decimal1 negative value, [])
    else if exp then some (.number .exponent negative value, [])
    else numberDone .zero negative value b
  | .any1 =>
    if isDigit b then some (.number .any1 negative (10 * value + digit), [])
    else if b = 46 then some (.number .decimal1 negative value, [])
    else if exp then some (.number .exponent negative value, [])
    else numberDone .any1 negative value b
  | .decimal1 => if isDigit b then some (.number .decimal2 negative value, []) else none
  | .decimal2 =>
    if isDigit b then some (.number .decimal2 negative value, [])
    else if exp then some (.number .exponent negative value, [])
    else numberDone .decimal2 negative value b
  | .exponent =>
    if b = 43 ∨ b = 45 then some (.number .sign negative value, [])
    else if isDigit b then some (.number .any2 negative value, [])
    else none
  | .sign => if isDigit b then some (.number .any2 negative value, []) else none
  | .any2 =>
    if isDigit b then some (.number .any2 negative value, [])
    else numberDone .any2 negative value b

/-- One byte of `scan_string`, between two characters or inside one. -/
def stringStep (acc : Bytes) (d : Utf8Decoder) (b : UInt8) : Option (State × List Token) :=
  if d.owed = 0 then
    if b = 34 then some (.start, [.valueString acc])
    else if b = 92 then some (.escape acc, [])
    else if b < 0x20 then none
    else (d.step b).map fun d' => (.string (acc ++ [b]) d', [])
  else (d.step b).map fun d' => (.string (acc ++ [b]) d', [])

/-- One hexadecimal digit of a `\u` escape; the fourth one decides the code point, which
must not be a low surrogate, and a high one waits for its pair. -/
def codepointStep (acc : Bytes) (left value : Nat) (b : UInt8) : Option (State × List Token) :=
  (hexValue b).bind fun x =>
    let value := 16 * value + x
    if left = 1 then
      if 0xD800 ≤ value ∧ value ≤ 0xDBFF then some (.lowBackslash acc value, [])
      else if 0xDC00 ≤ value ∧ value ≤ 0xDFFF then none
      else some (.string (acc ++ utf8Encode value) Utf8Decoder.accept, [])
    else some (.codepoint acc (left - 1) value, [])

/-- One hexadecimal digit of the low surrogate after a high one. -/
def lowCodepointStep (acc : Bytes) (high left value : Nat) (b : UInt8) :
    Option (State × List Token) :=
  (hexValue b).bind fun x =>
    let value := 16 * value + x
    if left = 1 then
      if 0xDC00 ≤ value ∧ value ≤ 0xDFFF then
        some (.string (acc ++ utf8Encode ((high <<< 10) + value - 0x35FDC00)) Utf8Decoder.accept, [])
      else none
    else some (.lowCodepoint acc high (left - 1) value, [])

/-- One byte through the lexer: the next state and the tokens finished on it, or `none`
for a `parse_error` token. -/
def step : State → UInt8 → Option (State × List Token)
  | .start, b => startStep b
  | .ended, _ => some (.ended, [])
  | .literal expected token, b =>
    match expected with
    | [] => none
    | c :: cs => if b ≠ c then none else if cs = [] then some (.start, [token]) else some (.literal cs token, [])
  | .string acc d, b => stringStep acc d b
  | .escape acc, b =>
    match unescape b with
    | some c => some (.string (acc ++ [c]) Utf8Decoder.accept, [])
    | none => if b = 117 then some (.codepoint acc 4 0, []) else none
  | .codepoint acc left value, b => codepointStep acc left value b
  | .lowBackslash acc high, b => if b = 92 then some (.lowU acc high, []) else none
  | .lowU acc high, b => if b = 117 then some (.lowCodepoint acc high 4 0, []) else none
  | .lowCodepoint acc high left value, b => lowCodepointStep acc high left value b
  | .number phase negative value, b => numberStep phase negative value b

/-- The lexer at the end of input: a number ends there when it may, anything else left
open is a `parse_error`. -/
def finish : State → Option (List Token)
  | .start | .ended => some []
  | .number phase negative value =>
    if phase = .zero ∨ phase = .any1 ∨ phase = .decimal2 ∨ phase = .any2 then
      some [numberToken phase negative value]
    else none
  | _ => none

/-- The tokens `ts` in front of those a scan finished. -/
def emit (ts : List Token) : Option (State × List Token) → Option (State × List Token) :=
  Option.map fun q => (q.1, ts ++ q.2)

/-- The lexer over some bytes: the state it ends in and the tokens it finished. -/
def scan : State → Bytes → Option (State × List Token)
  | s, [] => some (s, [])
  | s, b :: bs => (step s b).bind fun p => emit p.2 (scan p.1 bs)

/-- `skip_bom`: a leading `EF BB BF` is skipped, and an `EF` not followed by the rest of it
is an error. -/
def skipBom (input : Bytes) : Option Bytes :=
  if input.head? = some 0xEF then
    if input.take 3 = [0xEF, 0xBB, 0xBF] then some (input.drop 3) else none
  else some input

/-- All the tokens of a text, or `none` for a lexical error. -/
def lex (input : Bytes) : Option (List Token) :=
  (skipBom input).bind fun body =>
    (scan .start body).bind fun p => (finish p.1).map (p.2 ++ ·)

section Scanning

@[simp] theorem emit_nil (o : Option (State × List Token)) : emit [] o = o := by
  cases o <;> rfl

@[simp] theorem emit_emit (ts us : List Token) (o : Option (State × List Token)) :
    emit ts (emit us o) = emit (ts ++ us) o := by
  cases o <;> simp [emit]

@[simp] theorem scan_nil (s : State) : scan s [] = some (s, []) := rfl

/-- A step that succeeds hands its tokens to what follows. -/
theorem scan_cons {s s' : State} {b : UInt8} {out : List Token} (h : step s b = some (s', out))
    (bs : Bytes) : scan s (b :: bs) = emit out (scan s' bs) := by
  simp [scan, h]

theorem scan_append (s : State) (x y : Bytes) :
    scan s (x ++ y) = (scan s x).bind fun p => emit p.2 (scan p.1 y) := by
  induction x generalizing s with
  | nil => simp
  | cons b x ih =>
    rcases h : step s b with _ | ⟨s', out⟩
    · simp [scan, h]
    · rw [List.cons_append, scan_cons h, scan_cons h, ih]
      cases scan s' x <;> simp [emit, Function.comp_def]

/-- Some bytes read from `s` to `s'` finishing the tokens `ts`. -/
theorem scan_append_of_scan {s s' : State} {x : Bytes} {ts : List Token}
    (h : scan s x = some (s', ts)) (y : Bytes) : scan s (x ++ y) = emit ts (scan s' y) := by
  simp [scan_append, h]

end Scanning

section Strings

open Utf8Decoder

/-- A fact about every byte below `m` follows from one about the numbers below `m`, which
`decide` checks. -/
theorem byte_of_forall_lt {P : UInt8 → Prop} {m : Nat} (h : ∀ k < m, P (UInt8.ofNat k))
    {b : UInt8} (hb : b.toNat < m) : P b := by
  simpa [show UInt8.ofNat b.toNat = b from UInt8.toNat.inj (UInt8.toNat_ofNat_of_lt b.toNat_lt_size)]
    using h b.toNat hb

/-- What `\u00XX` of a control byte reads back: its two digits, their value, and the byte. -/
theorem control_escape {b : UInt8} (hb : b.toNat < 0x20) :
    hexValue (hexDigit (b / 16)) = some (b / 16).toNat ∧
      hexValue (hexDigit (b % 16)) = some (b % 16).toNat ∧
      16 * (b / 16).toNat + (b % 16).toNat = b.toNat ∧ utf8Encode b.toNat = [b] :=
  byte_of_forall_lt (P := fun b => hexValue (hexDigit (b / 16)) = some (b / 16).toNat ∧
      hexValue (hexDigit (b % 16)) = some (b % 16).toNat ∧
      16 * (b / 16).toNat + (b % 16).toNat = b.toNat ∧ utf8Encode b.toNat = [b]) (by decide) hb

/-- A byte that `escapeByte` leaves as it is. -/
theorem escapeByte_of_plain {b : UInt8} (h34 : b ≠ 34) (h92 : b ≠ 92) (hctl : 0x20 ≤ b.toNat) :
    escapeByte b = [b] := by
  have hne : ∀ c : UInt8, c.toNat < 0x20 → b ≠ c := fun c hc h => by rw [h] at hctl; omega
  have hle : ¬b ≤ 0x1F := fun h => by
    have : b.toNat ≤ 0x1F := h
    omega
  rw [escapeByte, if_neg (hne 8 (by decide)), if_neg (hne 9 (by decide)), if_neg (hne 10 (by decide)),
    if_neg (hne 12 (by decide)), if_neg (hne 13 (by decide)), if_neg h34, if_neg h92, if_neg hle]

/-- A string byte with its escape read back, from a decoder state the decoder reaches. -/
theorem scan_escapeByte {d d₁ : Utf8Decoder} (hd : d.Reached) {b : UInt8} (hb : d.step b = some d₁)
    (acc : Bytes) : scan (.string acc d) (escapeByte b) = some (.string (acc ++ [b]) d₁, []) := by
  by_cases hplain : b ≠ 34 ∧ b ≠ 92 ∧ 0x20 ≤ b.toNat
  · obtain ⟨h34, h92, hctl⟩ := hplain
    have hlt : ¬b < 0x20 := fun h => by
      have : b.toNat < 0x20 := h
      omega
    rw [escapeByte_of_plain h34 h92 hctl]
    simp [scan, step, stringStep, hb, h34, h92, hlt]
  · -- a quote, a backslash or a control byte: ASCII, so read between two characters
    have hascii : b ≤ 0x7F := by
      show b.toNat ≤ 0x7F
      by_cases h34 : b = 34
      · subst h34; decide
      by_cases h92 : b = 92
      · subst h92; decide
      have : ¬0x20 ≤ b.toNat := fun h => hplain ⟨h34, h92, h⟩
      omega
    have hstep := hd.step_ascii hascii
    rw [hb] at hstep
    have h0 : d.owed = 0 := by
      by_contra h
      simp [h] at hstep
    obtain rfl : d₁ = accept := by simpa [h0] using hstep
    obtain rfl : d = accept := hd.accept_of_owed h0
    unfold escapeByte
    -- the two-character escapes are read back by computation
    iterate 7
      rw [apply_ite (scan _), ite_eq_iff']
      refine ⟨fun h => by subst h; rfl, fun _ => ?_⟩
    by_cases hctl : b ≤ 0x1F
    · rw [if_pos hctl] -- `\u00` and two hexadecimal digits
      have hsmall : b.toNat < 0x20 := by
        have : b.toNat ≤ 0x1F := hctl
        omega
      obtain ⟨hhi, hlo, hval, henc⟩ := control_escape hsmall
      have hlast : step (.codepoint acc 1 (b / 16).toNat) (hexDigit (b % 16)) =
          some (.string (acc ++ [b]) accept, []) := by
        simp only [step, codepointStep, hlo, Option.some_bind, hval]
        rw [if_pos trivial, if_neg (by omega), if_neg (by omega), henc]
      rw [@scan_append_of_scan (.string acc accept) (.codepoint acc 2 0) (ascii "\\u00") [] rfl,
        @scan_cons _ (.codepoint acc 1 (b / 16).toNat) _ []
          (by simp only [step, codepointStep, hhi, Option.some_bind, Nat.mul_zero, Nat.zero_add]; rfl),
        scan_cons hlast]
      rfl
    · have : ¬b.toNat ≤ 0x1F := hctl
      exact absurd ⟨‹b ≠ 34›, ‹b ≠ 92›, by omega⟩ hplain

/-- The escaped bytes of a string, read from a state the decoder reaches, leave the string
open with those bytes added. -/
theorem scan_escaped : ∀ {s : Bytes} {d d' : Utf8Decoder}, d.Reached → d.run s = some d' →
    ∀ acc, scan (.string acc d) (s.map escapeByte).flatten = some (.string (acc ++ s) d', [])
  | [], _, _, _, h, acc => by cases h; simp
  | b :: s, d, d', hd, h, acc => by
    cases hb : d.step b with
    | none => simp [Utf8Decoder.run, hb] at h
    | some d₁ =>
      have hs : d₁.run s = some d' := by simpa [Utf8Decoder.run, hb] using h
      rw [List.map_cons, List.flatten_cons, scan_append_of_scan (scan_escapeByte hd hb acc),
        scan_escaped (reached_of_step hb) hs, List.append_assoc, List.singleton_append]
      rfl

/-- Some bytes are read from between two tokens as the tokens `ts`, whatever follows. -/
def Closed (t : Bytes) (ts : List Token) : Prop :=
  ∀ rest, scan .start (t ++ rest) = emit ts (scan .start rest)

theorem closed_of_scan {t : Bytes} {ts : List Token} (h : scan .start t = some (.start, ts)) :
    Closed t ts :=
  scan_append_of_scan h

theorem Closed.append {x y : Bytes} {xs ys : List Token} (hx : Closed x xs) (hy : Closed y ys) :
    Closed (x ++ y) (xs ++ ys) := fun rest => by
  rw [List.append_assoc, hx, hy, emit_emit]

/-- A string as `dump` writes it is read back as one string token. -/
theorem closed_dumpString {s t : Bytes} (h : dumpString s = some t) : Closed t [.valueString s] := by
  unfold dumpString at h
  split at h
  · cases h
    intro rest
    rw [List.cons_append, List.cons_append,
      @scan_cons .start (.string [] accept) 34 [] rfl,
      List.append_assoc,
      scan_append_of_scan (scan_escaped reached_accept (utf8Valid_iff.mp ‹_›) []),
      List.singleton_append, List.nil_append,
      @scan_cons (.string s accept) .start 34 [.valueString s]
        (by simp [step, stringStep, accept])]
    simp
  · cases h

end Strings

section Numbers

/-- The bytes that may follow a value in a text `dump` writes: the newline after it, a comma,
or the end of its array or object. -/
def Ends (b : UInt8) : Prop := b = 10 ∨ b = 44 ∨ b = 93 ∨ b = 125

/-- Some bytes are read as the tokens `ts` when one of those bytes follows; a number needs
it to end. -/
def Lexes (t : Bytes) (ts : List Token) : Prop :=
  ∀ b rest, Ends b → scan .start (t ++ b :: rest) = emit ts (scan .start (b :: rest))

theorem Closed.lexes {t : Bytes} {ts : List Token} (h : Closed t ts) : Lexes t ts :=
  fun b rest _ => h (b :: rest)

/-- The token of an integer as `std::to_string` writes it. -/
def intToken : Int → Token
  | .ofNat m => numberToken .any1 false m
  | .negSucc m => numberToken .any1 true (m + 1)

/-- A byte after a value ends a number that may end, and is read again. -/
theorem scan_number_of_ends {phase : NumberPhase} (hph : phase = .zero ∨ phase = .any1)
    (negative : Bool) (value : Nat) {b : UInt8} (hb : Ends b) (rest : Bytes) :
    scan (.number phase negative value) (b :: rest) =
      emit [numberToken phase negative value] (scan .start (b :: rest)) := by
  have hdone : numberStep phase negative value b = numberDone phase negative value b := by
    rcases hph with rfl | rfl <;> rcases hb with rfl | rfl | rfl | rfl <;> rfl
  simp only [scan, step, hdone, numberDone]
  cases startStep b <;> simp [emit, Function.comp_def]

/-- The digits after the first one accumulate as `strtoull` reads them. -/
theorem scan_digits (negative : Bool) :
    ∀ (ds : Bytes) (value : Nat), (∀ b ∈ ds, 48 ≤ b.toNat ∧ b.toNat ≤ 57) →
      scan (.number .any1 negative value) ds =
        some (.number .any1 negative (ds.foldl (fun acc b => 10 * acc + (b.toNat - 48)) value), [])
  | [], _, _ => rfl
  | b :: ds, value, h => by
    have hdigit : isDigit b = true := by
      have := h b (List.mem_cons_self b ds)
      simp only [isDigit, Bool.and_eq_true, decide_eq_true_eq]
      exact ⟨this.1, this.2⟩
    rw [@scan_cons _ (.number .any1 negative (10 * value + (b.toNat - 48))) _ []
      (by simp [step, numberStep, hdigit]), scan_digits negative ds _ fun c hc => h c (List.mem_cons_of_mem b hc)]
    rfl

/-- The first digit `toDigitsCore` writes for a positive number is not `0`. -/
theorem toDigitsCore_head {f n : Nat} (hn : 0 < n) (hf : n < f) (ds : List Char) :
    ∃ k rest, 0 < k ∧ k < 10 ∧ Nat.toDigitsCore 10 f n ds = Nat.digitChar k :: rest := by
  induction f generalizing n ds with
  | zero => omega
  | succ f ih =>
    simp only [Nat.toDigitsCore]
    split
    · exact ⟨n % 10, ds, by omega, Nat.mod_lt _ (by omega), rfl⟩
    · exact ih (by omega) (by omega) _

/-- A positive number is written with a first digit from `1` to `9`. -/
theorem decimal_head {m : Nat} (hm : 0 < m) :
    ∃ c ds, decimal m = c :: ds ∧ 49 ≤ c.toNat ∧ c.toNat ≤ 57 := by
  obtain ⟨k, rest, hk, hk', h⟩ := toDigitsCore_head hm (Nat.lt_succ_self m) []
  refine ⟨(Nat.digitChar k).toUInt8, rest.map Char.toUInt8, ?_, ?_⟩
  · rw [decimal_ofNat, Nat.toDigits, h, List.map_cons]
  · have := digitChar_toUInt8 k hk'
    omega

/-- A first digit from `1` to `9` opens a number, after a `-` or between two tokens. -/
theorem step_first_digit {c : UInt8} (h1 : 49 ≤ c.toNat) (h2 : c.toNat ≤ 57) :
    step .start c = some (.number .any1 false (c.toNat - 48), []) ∧
      step (.number .minus true 0) c = some (.number .any1 true (c.toNat - 48), []) :=
  byte_of_forall_lt (m := 58) (P := fun c => 49 ≤ c.toNat →
    step .start c = some (.number .any1 false (c.toNat - 48), []) ∧
      step (.number .minus true 0) c = some (.number .any1 true (c.toNat - 48), [])) (by decide)
    (by omega) h1

/-- The digits of a positive number leave it open with its value. -/
theorem scan_decimal_pos {s : State} {negative : Bool}
    (hs : ∀ c : UInt8, 49 ≤ c.toNat → c.toNat ≤ 57 →
      step s c = some (.number .any1 negative (c.toNat - 48), []))
    {m : Nat} (hm : 0 < m) : scan s (decimal m) = some (.number .any1 negative m, []) := by
  obtain ⟨c, ds, hdec, h1, h2⟩ := decimal_head hm
  have hdigits : ∀ b ∈ ds, 48 ≤ b.toNat ∧ b.toNat ≤ 57 := fun b hb =>
    decimal_ofNat_digits (hdec ▸ List.mem_cons_of_mem c hb)
  have hvalue := digitsValue_decimal m
  rw [hdec] at hvalue ⊢
  rw [scan_cons (hs c h1 h2), scan_digits negative ds _ hdigits]
  simp only [digitsValue, List.foldl_cons, Nat.mul_zero, Nat.zero_add] at hvalue
  simp [emit, hvalue]

/-- `std::to_string` of an integer is read back as its number token. -/
theorem lexes_decimal (n : Int) : Lexes (decimal n) [intToken n] := fun b rest hb => by
  cases n with
  | ofNat m =>
    rw [Int.ofNat_eq_coe]
    cases m with
    | zero =>
      rw [show decimal ((0 : Nat) : Int) = [48] from rfl, List.singleton_append,
        @scan_cons .start (.number .zero false 0) 48 [] rfl,
        scan_number_of_ends (.inl rfl) false 0 hb rest, emit_nil]
      rfl
    | succ m =>
      rw [scan_append_of_scan (scan_decimal_pos (fun c h1 h2 => (step_first_digit h1 h2).1)
        (Nat.succ_pos m)), scan_number_of_ends (.inr rfl) false _ hb rest, emit_nil]
      rfl
  | negSucc m =>
    rw [decimal_negSucc, ← decimal_ofNat, List.cons_append,
      @scan_cons .start (.number .minus true 0) 45 [] rfl,
      scan_append_of_scan (scan_decimal_pos (fun c h1 h2 => (step_first_digit h1 h2).2)
        (Nat.succ_pos m)), scan_number_of_ends (.inr rfl) true _ hb rest, emit_nil, emit_nil]
    rfl

end Numbers

end Lexer

/-- `std::map::operator[]` and an assignment: a new key goes to its place in key order, a
present one gets the new value. -/
def mapInsert (key : Bytes) (v : Json) : List (Bytes × Json) → List (Bytes × Json)
  | [] => [(key, v)]
  | (k, x) :: rest =>
    if key = k then (key, v) :: rest
    else if k ≤ key then (k, x) :: mapInsert key v rest
    else (key, v) :: (k, x) :: rest

namespace Parser

/-- A container `json_sax_dom_parser` holds open: the elements of an array so far, or the
members of an object so far with the key last read. -/
inductive Frame where
  | array (items : List Json)
  | object (members : List (Bytes × Json)) (key : Bytes)

/-- Where `sax_parse_internal` stands before its next `get_token()`. -/
inductive State where
  | value (stack : List Frame)
  | arrayFirst (stack : List Frame)
  | objectFirst (stack : List Frame)
  | objectKey (members : List (Bytes × Json)) (stack : List Frame)
  | nameSeparator (members : List (Bytes × Json)) (key : Bytes) (stack : List Frame)
  | afterValue (stack : List Frame)
  | done (root : Json)

/-- A finished value goes into the container on top of the stack, or becomes the result. -/
def close (v : Json) : List Frame → State
  | [] => .done v
  | .array items :: stack => .afterValue (.array (items ++ [v]) :: stack)
  | .object members key :: stack => .afterValue (.object (mapInsert key v members) key :: stack)

/-- The token that starts a value. A double has no place in `Json`, and any other token is
the error `expected value`. -/
def valueStep (stack : List Frame) : Token → Option State
  | .beginArray => some (.arrayFirst stack)
  | .beginObject => some (.objectFirst stack)
  | .literalTrue => some (close (.boolean true) stack)
  | .literalFalse => some (close (.boolean false) stack)
  | .literalNull => some (close .null stack)
  | .valueString s => some (close (.string s) stack)
  | .valueUnsigned n => some (close (.number n) stack)
  | .valueInteger n => some (close (.number n) stack)
  | _ => none

/-- One token of `sax_parse_internal`, or `none` for a `parse_error`. -/
def step : State → Token → Option State
  | .value stack, t => valueStep stack t
  | .arrayFirst stack, t =>
    if t = .endArray then some (close (.array []) stack) else valueStep (.array [] :: stack) t
  | .objectFirst stack, t =>
    match t with
    | .endObject => some (close (.object []) stack)
    | .valueString key => some (.nameSeparator [] key stack)
    | _ => none
  | .objectKey members stack, t =>
    match t with
    | .valueString key => some (.nameSeparator members key stack)
    | _ => none
  | .nameSeparator members key stack, t =>
    if t = .nameSeparator then some (.value (.object members key :: stack)) else none
  | .afterValue (.array items :: stack), t =>
    if t = .valueSeparator then some (.value (.array items :: stack))
    else if t = .endArray then some (close (.array items) stack)
    else none
  | .afterValue (.object members _ :: stack), t =>
    if t = .valueSeparator then some (.objectKey members stack)
    else if t = .endObject then some (close (.object members) stack)
    else none
  | .afterValue [], _ => none
  | .done _, _ => none

/-- The parser over tokens. -/
def run : State → List Token → Option State
  | s, [] => some s
  | s, t :: ts => (step s t).bind (run · ts)

/-- What the parser returns at the end of input: the value, once the top one is closed. -/
def result : State → Option Json
  | .done v => some v
  | _ => none

end Parser

/-- `nlohmann::json::parse` with strict checking: the value of the whole text, or `none`
where it throws `parse_error`. -/
def Json.parse (input : Bytes) : Option Json :=
  (Lexer.lex input).bind fun tokens => (Parser.run (.value []) tokens).bind Parser.result

/-- The tokens of the text `dump` writes for a value, object members in key order. -/
def Json.tokens : Json → List Token
  | .null => [.literalNull]
  | .boolean b => [if b then .literalTrue else .literalFalse]
  | .number n => [Lexer.intToken n]
  | .string s => [.valueString s]
  | .array items => [.beginArray] ++ [.valueSeparator].intercalate (tokensItems items) ++ [.endArray]
  | .object fields => [.beginObject] ++ [.valueSeparator].intercalate
      (((tokensFields fields).insertionSort (·.1 ≤ ·.1)).map fun m =>
        .valueString m.1 :: .nameSeparator :: m.2) ++ [.endObject]
where
  /-- The tokens of each element. -/
  tokensItems : List Json → List (List Token)
    | [] => []
    | j :: js => j.tokens :: tokensItems js
  /-- Each member's key with the tokens of its value. -/
  tokensFields : List (Bytes × Json) → List (Bytes × List Token)
    | [] => []
    | (k, j) :: fs => (k, j.tokens) :: tokensFields fs

section Sorting

variable {γ δ : Type} {R : Bytes × γ → Bytes × δ → Prop}

/-- Inserting related elements with equal keys keeps two lists related. -/
theorem forall₂_orderedInsert (hR : ∀ a b, R a b → a.1 = b.1) {a : Bytes × γ} {b : Bytes × δ}
    (hab : R a b) : ∀ {l₁ : List (Bytes × γ)} {l₂ : List (Bytes × δ)}, List.Forall₂ R l₁ l₂ →
      List.Forall₂ R (l₁.orderedInsert (·.1 ≤ ·.1) a) (l₂.orderedInsert (·.1 ≤ ·.1) b)
  | [], [], .nil => .cons hab .nil
  | c :: _, d :: _, .cons hcd h => by
    simp only [List.orderedInsert, hR a b hab, hR c d hcd]
    split_ifs
    · exact .cons hab (.cons hcd h)
    · exact .cons hcd (forall₂_orderedInsert hR hab h)

/-- Sorting by key keeps two lists related when related elements have equal keys, as the
sort is stable. -/
theorem forall₂_insertionSort (hR : ∀ a b, R a b → a.1 = b.1) :
    ∀ {l₁ : List (Bytes × γ)} {l₂ : List (Bytes × δ)}, List.Forall₂ R l₁ l₂ →
      List.Forall₂ R (l₁.insertionSort (·.1 ≤ ·.1)) (l₂.insertionSort (·.1 ≤ ·.1))
  | [], [], .nil => .nil
  | _ :: _, _ :: _, .cons hab h => forall₂_orderedInsert hR hab (forall₂_insertionSort hR h)

end Sorting

theorem intercalate_single {α : Type} (sep x : List α) : sep.intercalate [x] = x := by
  simp [List.intercalate]

theorem intercalate_cons_cons {α : Type} (sep x y : List α) (rest : List (List α)) :
    sep.intercalate (x :: y :: rest) = x ++ sep ++ sep.intercalate (y :: rest) := by
  simp [List.intercalate, List.intersperse_cons₂]

namespace Lexer

section Containers

theorem Closed.append_lexes {x y : Bytes} {xs ys : List Token} (hx : Closed x xs) (hy : Lexes y ys) :
    Lexes (x ++ y) (xs ++ ys) := fun b rest hb => by
  rw [List.append_assoc, hx, hy b rest hb, emit_emit]

/-- Values joined by commas and closed by a bracket are read as their tokens joined by
separators, then the bracket's token. -/
theorem closed_intercalate {c : UInt8} {close : Token} (hc : Ends c)
    (hstep : step .start c = some (.start, [close])) :
    ∀ {parts : List Bytes} {tss : List (List Token)}, List.Forall₂ Lexes parts tss →
      Closed ([44].intercalate parts ++ [c]) ([.valueSeparator].intercalate tss ++ [close])
  | [], [], .nil => closed_of_scan (by simp [scan, hstep, emit, List.intercalate])
  | [_], [_], .cons h .nil => fun rest => by
    simp only [intercalate_single, List.append_assoc, List.singleton_append]
    rw [h c rest hc, scan_cons hstep, emit_emit]
  | _ :: _ :: _, _ :: _ :: _, .cons h hs => fun rest => by
    have htail := closed_intercalate hc hstep hs rest
    simp only [intercalate_cons_cons, List.append_assoc, List.singleton_append, List.cons_append,
      List.nil_append] at htail ⊢
    rw [h 44 _ (.inr (.inl rfl)), @scan_cons .start .start 44 [.valueSeparator] rfl, htail, emit_emit, emit_emit]
    simp

end Containers

section Dump

open Json.tokens

mutual

/-- Every text `dump` writes is read back as the tokens of its value. -/
theorem lexes_dump : ∀ (j : Json) {t : Bytes}, j.dump = some t → Lexes t j.tokens
  | .null, _, h => by
    simp only [Json.dump, Option.some.injEq] at h
    subst h
    exact Closed.lexes (closed_of_scan rfl)
  | .boolean b, _, h => by
    simp only [Json.dump, Option.some.injEq] at h
    subst h
    cases b <;> exact Closed.lexes (closed_of_scan rfl)
  | .number n, _, h => by
    simp only [Json.dump, Option.some.injEq] at h
    subst h
    exact lexes_decimal n
  | .string _, _, h => (closed_dumpString h).lexes
  | .array items, _, h => by
    simp only [Json.dump, Option.map_eq_some'] at h
    obtain ⟨parts, hparts, rfl⟩ := h
    have hclosed := (@closed_of_scan [91] [.beginArray] rfl).append
      (closed_intercalate (c := 93) (.inr (.inr (.inl rfl))) rfl (lexes_dumpItems items hparts))
    simp only [← List.append_assoc] at hclosed
    exact hclosed.lexes
  | .object fields, _, h => by
    simp only [Json.dump, Option.map_eq_some'] at h
    obtain ⟨members, hmembers, rfl⟩ := h
    have hsorted := forall₂_insertionSort (fun _ _ h => h.1) (lexes_dumpFields fields hmembers)
    have hmembers : List.Forall₂ Lexes ((members.insertionSort (·.1 ≤ ·.1)).map (·.2))
        (((tokensFields fields).insertionSort (·.1 ≤ ·.1)).map fun m =>
          .valueString m.1 :: .nameSeparator :: m.2) := by
      rw [List.forall₂_map_left_iff, List.forall₂_map_right_iff]
      exact hsorted.imp fun m f h => h.1 ▸ h.2
    have hclosed := (@closed_of_scan [123] [.beginObject] rfl).append
      (closed_intercalate (c := 125) (.inr (.inr (.inr rfl))) rfl hmembers)
    simp only [← List.append_assoc] at hclosed
    exact hclosed.lexes

theorem lexes_dumpItems : ∀ (items : List Json) {parts : List Bytes},
    Json.dump.dumpItems items = some parts → List.Forall₂ Lexes parts (tokensItems items)
  | [], _, h => by
    simp only [Json.dump.dumpItems, Option.some.injEq] at h
    subst h
    exact .nil
  | j :: js, _, h => by
    simp only [Json.dump.dumpItems, Option.bind_eq_some, Option.map_eq_some'] at h
    obtain ⟨a, ha, ps, hps, rfl⟩ := h
    exact .cons (lexes_dump j ha) (lexes_dumpItems js hps)

theorem lexes_dumpFields : ∀ (fields : List (Bytes × Json)) {members : List (Bytes × Bytes)},
    Json.dump.dumpFields fields = some members →
      List.Forall₂ (fun m f => m.1 = f.1 ∧ Lexes m.2 (.valueString m.1 :: .nameSeparator :: f.2))
        members (tokensFields fields)
  | [], _, h => by
    simp only [Json.dump.dumpFields, Option.some.injEq] at h
    subst h
    exact .nil
  | (k, j) :: fs, _, h => by
    simp only [Json.dump.dumpFields, Option.bind_eq_some, Option.map_eq_some'] at h
    obtain ⟨key, hkey, value, hvalue, ms, hms, rfl⟩ := h
    refine .cons ⟨rfl, ?_⟩ (lexes_dumpFields fs hms)
    have hlexes := ((closed_dumpString hkey).append
      (@closed_of_scan [58] [.nameSeparator] rfl)).append_lexes (lexes_dump j hvalue)
    simpa using hlexes

end

end Dump

end Lexer

/-- Every number of a value fits the integer types of `nlohmann::json`: `int64_t` below
zero, `uint64_t` from zero. -/
def Json.numbersFit : Json → Bool
  | .number n => decide (-2 ^ 63 ≤ n ∧ n < 2 ^ 64)
  | .array items => fitItems items
  | .object fields => fitFields fields
  | _ => true
where
  /-- Every element's numbers fit. -/
  fitItems : List Json → Bool
    | [] => true
    | j :: js => j.numbersFit && fitItems js
  /-- Every member's numbers fit. -/
  fitFields : List (Bytes × Json) → Bool
    | [] => true
    | (_, j) :: fs => j.numbersFit && fitFields fs

/-- The value `parse` builds for a value: its objects as a `std::map` holds them, members in
key order and a repeated key with its last value. -/
def Json.canon : Json → Json
  | .array items => .array (canonItems items)
  | .object fields =>
    .object (((canonFields fields).insertionSort (·.1 ≤ ·.1)).foldl (fun m p => mapInsert p.1 p.2 m) [])
  | j => j
where
  /-- Each element as `parse` builds it. -/
  canonItems : List Json → List Json
    | [] => []
    | j :: js => j.canon :: canonItems js
  /-- Each member's value as `parse` builds it. -/
  canonFields : List (Bytes × Json) → List (Bytes × Json)
    | [] => []
    | (k, j) :: fs => (k, j.canon) :: canonFields fs

namespace Parser

section Run

@[simp] theorem run_nil (s : State) : run s [] = some s := rfl

theorem run_cons {s s' : State} {t : Token} (h : step s t = some s') (ts : List Token) :
    run s (t :: ts) = run s' ts := by
  simp [run, h]

/-- The tokens `ts` make the parser close the value `v` in whatever container is open. -/
def Parses (ts : List Token) (v : Json) : Prop :=
  ∀ stack more, run (.value stack) (ts ++ more) = run (close v stack) more

/-- A value token closes its value at once. -/
theorem parses_single {t : Token} {v : Json} (h : ∀ stack, valueStep stack t = some (close v stack)) :
    Parses [t] v := fun stack more => run_cons (s := .value stack) (h stack) more

/-- After `[`, a token that does not close the array starts its first element. -/
theorem run_arrayFirst {stack : List Frame} {t : Token} (ht : t ≠ .endArray) (ts : List Token) :
    run (.arrayFirst stack) (t :: ts) = run (.value (.array [] :: stack)) (t :: ts) := by
  simp [run, step, ht]

/-- The elements after the first, each after a separator, then `]`. -/
theorem run_elements {stack : List Frame} {more : List Token} :
    ∀ {tss : List (List Token)} {items : List Json} (acc : List Json), List.Forall₂ Parses tss items →
      tss ≠ [] → run (.value (.array acc :: stack)) ([.valueSeparator].intercalate tss ++ .endArray :: more) =
        run (close (.array (acc ++ items)) stack) more
  | [_], [v], acc, .cons h .nil, _ => by
    rw [intercalate_single, h, close, @run_cons _ (close (.array (acc ++ [v])) stack) _ (by simp [step])]
  | _ :: _ :: _, v :: _ :: _, acc, .cons h hs, _ => by
    rw [intercalate_cons_cons, List.append_assoc, List.append_assoc, h, close, List.singleton_append,
      @run_cons _ (.value (.array (acc ++ [v]) :: stack)) _ (by simp [step]),
      run_elements (acc ++ [v]) hs (List.cons_ne_nil _ _), List.append_assoc, List.singleton_append]

/-- The members after `{` or a separator, each put into the map under its key, then `}`. -/
theorem run_members {stack : List Frame} {more : List Token} :
    ∀ {mts : List (Bytes × List Token)} {cvs : List (Bytes × Json)} (m : List (Bytes × Json)),
      List.Forall₂ (fun a b => a.1 = b.1 ∧ Parses a.2 b.2) mts cvs → mts ≠ [] →
      run (.objectKey m stack) ([.valueSeparator].intercalate
          (mts.map fun a => .valueString a.1 :: .nameSeparator :: a.2) ++ .endObject :: more) =
        run (close (.object (cvs.foldl (fun m p => mapInsert p.1 p.2 m) m)) stack) more
  | [(k, ts)], [(_, v)], m, .cons ⟨rfl, h⟩ .nil, _ => by
    rw [List.map_singleton, intercalate_single, List.cons_append, List.cons_append,
      @run_cons (.objectKey m stack) (.nameSeparator m k stack) (.valueString k) rfl,
      @run_cons (.nameSeparator m k stack) (.value (.object m k :: stack)) .nameSeparator rfl, h, close,
      @run_cons _ (close (.object (mapInsert k v m)) stack) _ (by simp [step])]
    rfl
  | (k, ts) :: _ :: _, (_, v) :: _ :: _, m, .cons ⟨rfl, h⟩ hs, _ => by
    have htail := @run_members stack more _ _ (mapInsert k v m) hs (List.cons_ne_nil _ _)
    simp only [List.map_cons, intercalate_cons_cons, List.append_assoc, List.cons_append,
      List.singleton_append, List.nil_append] at htail ⊢
    rw [@run_cons (.objectKey m stack) (.nameSeparator m k stack) (.valueString k) rfl,
      @run_cons (.nameSeparator m k stack) (.value (.object m k :: stack)) .nameSeparator rfl, h, close,
      @run_cons _ (.objectKey (mapInsert k v m) stack) _ (by simp [step]), htail]
    rfl

/-- A list of token lists whose first one starts with `t` starts with `t` once joined. -/
theorem intercalate_head (sep : List Token) (t : Token) (rest : List Token) (tss : List (List Token)) :
    ∃ r, sep.intercalate ((t :: rest) :: tss) = t :: r := by
  cases tss with
  | nil => exact ⟨rest, intercalate_single _ _⟩
  | cons _ _ => exact ⟨_, by rw [intercalate_cons_cons]; rfl⟩

/-- An array's tokens build the array of its elements. -/
theorem parses_array {tss : List (List Token)} {items : List Json} (h : List.Forall₂ Parses tss items)
    (hhead : ∀ ts ∈ tss, ∃ t rest, ts = t :: rest ∧ t ≠ .endArray) :
    Parses ([.beginArray] ++ [.valueSeparator].intercalate tss ++ [.endArray]) (.array items) :=
  fun stack more => by
  rw [List.append_assoc, List.append_assoc, List.singleton_append, List.singleton_append,
    @run_cons (.value stack) (.arrayFirst stack) .beginArray rfl]
  cases tss with
  | nil =>
    cases h
    exact run_cons (by simp [step]) more
  | cons ts tss' =>
    obtain ⟨t, rest, rfl, ht⟩ := hhead _ (List.mem_cons_self _ _)
    obtain ⟨r, hr⟩ := intercalate_head [.valueSeparator] t rest tss'
    rw [hr, List.cons_append, run_arrayFirst ht, ← List.cons_append, ← hr,
      run_elements [] h (List.cons_ne_nil _ _), List.nil_append]

/-- An object's tokens, members in key order, build the map of its members. -/
theorem parses_object {mts : List (Bytes × List Token)} {cvs : List (Bytes × Json)}
    (h : List.Forall₂ (fun a b => a.1 = b.1 ∧ Parses a.2 b.2) mts cvs) :
    Parses ([.beginObject] ++ [.valueSeparator].intercalate
        (mts.map fun a => .valueString a.1 :: .nameSeparator :: a.2) ++ [.endObject])
      (.object (cvs.foldl (fun m p => mapInsert p.1 p.2 m) [])) := fun stack more => by
  rw [List.append_assoc, List.append_assoc, List.singleton_append, List.singleton_append,
    @run_cons (.value stack) (.objectFirst stack) .beginObject rfl]
  cases h with
  | nil => exact run_cons (by simp [step]) more
  | @cons a b mts' cvs' hab hs =>
    obtain ⟨r, hr⟩ := intercalate_head [.valueSeparator] (.valueString a.1) (.nameSeparator :: a.2)
      (mts'.map fun a => .valueString a.1 :: .nameSeparator :: a.2)
    have hfirst : run (.objectFirst stack) (.valueString a.1 :: (r ++ .endObject :: more)) =
        run (.objectKey [] stack) (.valueString a.1 :: (r ++ .endObject :: more)) := by
      simp [run, step]
    rw [List.map_cons, hr, List.cons_append, hfirst, ← List.cons_append, ← hr]
    exact run_members [] (.cons hab hs) (List.cons_ne_nil _ _)

end Run

section Tokens

open Json.tokens Json.canon Json.numbersFit

/-- A value's tokens start with one that opens a value, never with `]`. -/
theorem tokens_head (j : Json) : ∃ t rest, j.tokens = t :: rest ∧ t ≠ .endArray := by
  cases j with
  | number n =>
    refine ⟨_, _, rfl, ?_⟩
    cases n <;> simp only [Lexer.intToken, Lexer.numberToken] <;> split_ifs <;> simp
  | boolean b => exact ⟨_, _, rfl, by cases b <;> simp⟩
  | _ => exact ⟨_, _, rfl, by simp⟩

theorem tokensItems_eq (items : List Json) : tokensItems items = items.map Json.tokens := by
  induction items <;> simp [tokensItems, *]

/-- An integer that fits is read back as itself. -/
theorem parses_number {n : Int} (h : (Json.number n).numbersFit = true) :
    Parses (Json.number n).tokens (Json.number n).canon := parses_single fun stack => by
  simp only [Json.numbersFit, decide_eq_true_eq] at h
  cases n with
  | ofNat m =>
    have hm : m < 2 ^ 64 := by
      rw [Int.ofNat_eq_coe] at h
      omega
    simp only [Json.tokens, Json.canon, Lexer.intToken, Lexer.numberToken]
    rw [if_neg Bool.false_ne_true, if_pos hm]
    rfl
  | negSucc m =>
    have hm : m + 1 ≤ 2 ^ 63 := by
      rw [Int.negSucc_eq] at h
      omega
    simp only [Json.tokens, Json.canon, Lexer.intToken, Lexer.numberToken]
    rw [if_pos trivial, if_pos hm]
    rfl

mutual

/-- The tokens of every value whose numbers fit build the value as `parse` holds it. -/
theorem parses_tokens : ∀ j : Json, j.numbersFit = true → Parses j.tokens j.canon
  | .null, _ => parses_single fun _ => rfl
  | .boolean b, _ => by cases b <;> exact parses_single fun _ => rfl
  | .number _, h => parses_number h
  | .string _, _ => parses_single fun _ => rfl
  | .array items, h => parses_array (parses_tokensItems items h) fun ts hts => by
    rw [tokensItems_eq] at hts
    obtain ⟨j, -, rfl⟩ := List.mem_map.mp hts
    exact tokens_head j
  | .object fields, h => parses_object (forall₂_insertionSort (fun _ _ h => h.1) (parses_tokensFields fields h))

theorem parses_tokensItems : ∀ items : List Json, fitItems items = true →
    List.Forall₂ Parses (tokensItems items) (canonItems items)
  | [], _ => .nil
  | j :: js, h => by
    simp only [fitItems, Bool.and_eq_true] at h
    exact .cons (parses_tokens j h.1) (parses_tokensItems js h.2)

theorem parses_tokensFields : ∀ fields : List (Bytes × Json), fitFields fields = true →
    List.Forall₂ (fun a b => a.1 = b.1 ∧ Parses a.2 b.2) (tokensFields fields) (canonFields fields)
  | [], _ => .nil
  | (_, j) :: fs, h => by
    simp only [fitFields, Bool.and_eq_true] at h
    exact .cons ⟨rfl, parses_tokens j h.1⟩ (parses_tokensFields fs h.2)

end

end Tokens

end Parser

/-- The text `dump` writes starts with `n`, `t`, `f`, a digit, `-`, a quote or a bracket,
never with the first byte of a byte order mark. -/
theorem dump_head_ne_bom {j : Json} {t : Bytes} (h : j.dump = some t) : t.head? ≠ some 0xEF := by
  cases j with
  | number n =>
    simp only [Json.dump, Option.some.injEq] at h
    subst h
    intro hhead
    rcases decimal_digits (List.mem_of_mem_head? hhead) with h | h
    · exact absurd h (by decide)
    · exact absurd h.2 (by decide)
  | string s =>
    unfold Json.dump dumpString at h
    split at h <;> cases h
    simp
  | array items =>
    simp only [Json.dump, Option.map_eq_some'] at h
    obtain ⟨_, _, rfl⟩ := h
    simp
  | object fields =>
    simp only [Json.dump, Option.map_eq_some'] at h
    obtain ⟨_, _, rfl⟩ := h
    simp
  | null => cases h; decide
  | boolean b => cases h; cases b <;> decide

/-- `parse` reads back every reply line the worker writes: the text of `dump` and its
newline give the value again, its objects ordered as a `std::map` holds them, provided its
numbers fit the integer types of `nlohmann::json`. -/
theorem Json.parse_dump {j : Json} {t : Bytes} (h : j.dump = some t) (hfit : j.numbersFit = true) :
    Json.parse (t ++ [newline]) = some j.canon := by
  have hbom : Lexer.skipBom (t ++ [newline]) = some (t ++ [newline]) := by
    have hne := dump_head_ne_bom h
    cases t with
    | nil => rfl
    | cons c t => simp_all [Lexer.skipBom]
  have hlex : Lexer.lex (t ++ [newline]) = some j.tokens := by
    have hnl : Lexer.scan .start [newline] = some (.start, []) := rfl
    simp [Lexer.lex, hbom, Lexer.lexes_dump j h newline [] (.inl rfl), hnl, Lexer.emit, Lexer.finish]
  have hrun : Parser.run (.value []) j.tokens = some (.done j.canon) := by
    simpa using Parser.parses_tokens j hfit [] []
  simp [Json.parse, hlex, hrun, Parser.result]

section KeyOrder

/-- Two bytes compare one way or the other, or are equal. -/
theorem byte_trichotomy (x y : UInt8) : x < y ∨ x = y ∨ y < x := by
  rcases Nat.lt_trichotomy x.toNat y.toNat with h | h | h
  · exact .inl h
  · exact .inr (.inl (UInt8.toNat.inj h))
  · exact .inr (.inr h)

/-- Byte strings compare lexicographically, as `std::string` does, and any two compare. -/
theorem bytes_trichotomy : ∀ a b : Bytes, List.lt a b ∨ a = b ∨ List.lt b a
  | [], [] => .inr (.inl rfl)
  | [], _ :: _ => .inl (.nil _ _)
  | _ :: _, [] => .inr (.inr (.nil _ _))
  | x :: xs, y :: ys => by
    rcases byte_trichotomy x y with h | rfl | h
    · exact .inl (.head _ _ h)
    · rcases bytes_trichotomy xs ys with h | rfl | h
      · exact .inl (.tail (UInt8.lt_irrefl x) (UInt8.lt_irrefl x) h)
      · exact .inr (.inl rfl)
      · exact .inr (.inr (.tail (UInt8.lt_irrefl x) (UInt8.lt_irrefl x) h))
    · exact .inr (.inr (.head _ _ h))

theorem bytes_lt_trans {a b c : Bytes} (h₁ : List.lt a b) (h₂ : List.lt b c) : List.lt a c :=
  List.lt_trans (fun h₁ h₂ => UInt8.lt_trans h₁ h₂)
    (fun {x y z} (h₁ : ¬x.toNat < y.toNat) (h₂ : ¬y.toNat < z.toNat) (h : x.toNat < z.toNat) => by omega)
    h₁ h₂

theorem bytes_le_total (a b : Bytes) : a ≤ b ∨ b ≤ a := by
  by_cases h : List.lt b a
  · exact .inr fun h' => List.lt_irrefl UInt8.lt_irrefl b (bytes_lt_trans h h')
  · exact .inl h

theorem bytes_le_trans {a b c : Bytes} (h₁ : a ≤ b) (h₂ : b ≤ c) : a ≤ c := by
  show ¬List.lt c a
  intro hca
  rcases bytes_trichotomy b c with hbc | rfl | hcb
  · exact h₁ (bytes_lt_trans hbc hca)
  · exact h₁ hca
  · exact h₂ hcb

instance keyOrder_total {α : Type} : IsTotal (Bytes × α) (·.1 ≤ ·.1) :=
  ⟨fun a b => bytes_le_total a.1 b.1⟩

instance keyOrder_trans {α : Type} : IsTrans (Bytes × α) (·.1 ≤ ·.1) :=
  ⟨fun _ _ _ => bytes_le_trans⟩

end KeyOrder

section DistinctKeys

/-- No object of a value, at any depth, has a key twice, as no `std::map` has. -/
def Json.keysDistinct : Json → Bool
  | .array items => distinctItems items
  | .object fields => decide (fields.map (·.1)).Nodup && distinctFields fields
  | _ => true
where
  /-- No element has a key twice. -/
  distinctItems : List Json → Bool
    | [] => true
    | j :: js => j.keysDistinct && distinctItems js
  /-- No member's value has a key twice. -/
  distinctFields : List (Bytes × Json) → Bool
    | [] => true
    | (_, j) :: fs => j.keysDistinct && distinctFields fs

open Json.canon Json.keysDistinct

/-- A key above all those of a map, and none of them, goes at its end. -/
theorem mapInsert_of_le {k : Bytes} {v : Json} :
    ∀ {m : List (Bytes × Json)}, (∀ q ∈ m, q.1 ≤ k ∧ q.1 ≠ k) → mapInsert k v m = m ++ [(k, v)]
  | [], _ => rfl
  | (k', x) :: rest, h => by
    obtain ⟨hle, hne⟩ := h (k', x) (List.mem_cons_self _ _)
    rw [mapInsert, if_neg (Ne.symm hne), if_pos hle,
      mapInsert_of_le fun q hq => h q (List.mem_cons_of_mem _ hq)]
    rfl

/-- Members sorted by key, no key twice, go into a map one by one in their order. -/
theorem foldl_mapInsert_of_sorted : ∀ (acc l : List (Bytes × Json)),
    (acc ++ l).Sorted (·.1 ≤ ·.1) → ((acc ++ l).map (·.1)).Nodup →
      l.foldl (fun m p => mapInsert p.1 p.2 m) acc = acc ++ l
  | acc, [], _, _ => by simp
  | acc, p :: l, hs, hn => by
    have hins : mapInsert p.1 p.2 acc = acc ++ [p] := mapInsert_of_le fun q hq => by
      refine ⟨(List.pairwise_append.mp hs).2.2 q hq p (List.mem_cons_self _ _), fun h => ?_⟩
      rw [List.map_append, List.nodup_append] at hn
      exact hn.2.2 (List.mem_map_of_mem _ hq) (h ▸ List.mem_map_of_mem _ (List.mem_cons_self p l))
    rw [List.foldl_cons, hins, foldl_mapInsert_of_sorted (acc ++ [p]) l (by simpa using hs)
      (by simpa using hn)]
    simp

theorem canonFields_keys (fields : List (Bytes × Json)) :
    (canonFields fields).map (·.1) = fields.map (·.1) := by
  induction fields with
  | nil => rfl
  | cons f fs ih => simp [canonFields, ih]

/-- An object with no key twice is read back with its members sorted by key. -/
theorem canon_object_of_nodup {fields : List (Bytes × Json)} (h : (fields.map (·.1)).Nodup) :
    (Json.object fields).canon = .object ((canonFields fields).insertionSort (·.1 ≤ ·.1)) := by
  have hsorted := List.sorted_insertionSort (·.1 ≤ ·.1) (canonFields fields)
  have hnodup : (((canonFields fields).insertionSort (·.1 ≤ ·.1)).map (·.1)).Nodup := by
    rw [((List.perm_insertionSort _ _).map _).nodup_iff, canonFields_keys]
    exact h
  simp only [Json.canon]
  rw [foldl_mapInsert_of_sorted [] _ (by simpa using hsorted) (by simpa using hnodup)]
  rfl

/-- Sorting by key twice is sorting once. -/
theorem insertionSort_idem {α : Type} (l : List (Bytes × α)) :
    (l.insertionSort (·.1 ≤ ·.1)).insertionSort (·.1 ≤ ·.1) = l.insertionSort (·.1 ≤ ·.1) :=
  (List.sorted_insertionSort _ l).insertionSort_eq

/-- The key of a member with the text `dump` writes for it, when it writes one. -/
def memberText (p : Bytes × Json) : Bytes × Bytes :=
  (p.1, (dumpString p.1).getD [] ++ 58 :: p.2.dump.getD [])

theorem dumpFields_eq_map : ∀ {l : List (Bytes × Json)},
    (∀ p ∈ l, utf8Valid p.1 = true ∧ p.2.dump.isSome = true) →
      Json.dump.dumpFields l = some (l.map memberText)
  | [], _ => rfl
  | (k, j) :: fs, h => by
    obtain ⟨hk, hj⟩ := h (k, j) (List.mem_cons_self _ _)
    obtain ⟨t, ht⟩ := Option.isSome_iff_exists.mp hj
    simp [Json.dump.dumpFields, dumpString, hk, ht, memberText,
      dumpFields_eq_map fun p hp => h p (List.mem_cons_of_mem _ hp)]

/-- `dump` writes the members of a list sorted by key as it writes them sorted itself. -/
theorem dumpFields_insertionSort (l : List (Bytes × Json)) :
    Json.dump.dumpFields (l.insertionSort (·.1 ≤ ·.1)) =
      (Json.dump.dumpFields l).map (·.insertionSort (·.1 ≤ ·.1)) := by
  have hmem : ∀ p, p ∈ l.insertionSort (·.1 ≤ ·.1) ↔ p ∈ l := fun _ => List.mem_insertionSort _
  by_cases h : ∀ p ∈ l, utf8Valid p.1 = true ∧ p.2.dump.isSome = true
  · rw [dumpFields_eq_map fun p hp => h p ((hmem p).mp hp), dumpFields_eq_map h, Option.map_some',
      List.map_insertionSort (·.1 ≤ ·.1) (·.1 ≤ ·.1) memberText l fun _ _ _ _ => Iff.rfl]
  · have hnone : ∀ l' : List (Bytes × Json), (∀ p, p ∈ l' ↔ p ∈ l) → Json.dump.dumpFields l' = none :=
      fun l' hl' => Option.not_isSome_iff_eq_none.mp fun hs =>
        h fun p hp => (Json.dumpFields_isSome l').mp hs p ((hl' p).mpr hp)
    rw [hnone _ hmem, hnone l fun _ => Iff.rfl]
    rfl

mutual

/-- `dump` writes a value with no key twice as it writes the value `parse` reads back. -/
theorem dump_canon : ∀ j : Json, j.keysDistinct = true → j.canon.dump = j.dump
  | .null, _ => rfl
  | .boolean _, _ => rfl
  | .number _, _ => rfl
  | .string _, _ => rfl
  | .array items, h => by
    simp only [Json.canon, Json.dump, dumpItems_canon items h]
  | .object fields, h => by
    simp only [Json.keysDistinct, Bool.and_eq_true, decide_eq_true_eq] at h
    rw [canon_object_of_nodup h.1]
    simp only [Json.dump, dumpFields_insertionSort, dumpFields_canon fields h.2, Option.map_map,
      Function.comp_def, insertionSort_idem]

theorem dumpItems_canon : ∀ items : List Json, distinctItems items = true →
    Json.dump.dumpItems (canonItems items) = Json.dump.dumpItems items
  | [], _ => rfl
  | j :: js, h => by
    simp only [distinctItems, Bool.and_eq_true] at h
    simp only [canonItems, Json.dump.dumpItems, dump_canon j h.1, dumpItems_canon js h.2]

theorem dumpFields_canon : ∀ fields : List (Bytes × Json), distinctFields fields = true →
    Json.dump.dumpFields (canonFields fields) = Json.dump.dumpFields fields
  | [], _ => rfl
  | (_, j) :: fs, h => by
    simp only [distinctFields, Bool.and_eq_true] at h
    simp only [canonFields, Json.dump.dumpFields, dump_canon j h.1, dumpFields_canon fs h.2]

end

end DistinctKeys

end Wpmd

namespace Wpmd

/-- A reply line read back. `parse` gives the value as a `std::map` holds it. For a value with
no key twice, `dump` writes what `parse` read as the same text again. -/
theorem Json.parse_dump_line {j : Json} {t : Bytes} (h : j.dump = some t)
    (hfit : j.numbersFit = true) :
    Json.parse (t ++ [newline]) = some j.canon ∧
      (j.keysDistinct = true → (Json.parse (t ++ [newline])).bind Json.dump = some t) :=
  ⟨Json.parse_dump h hfit, fun hk => by rw [Json.parse_dump h hfit, Option.some_bind, dump_canon j hk, h]⟩

theorem Json.parse_dump_line_busy :
    ((errorReply (ascii "state") (ascii "busy")).dump =
        some (ascii "\x7b\"CMD\":\"state\",\"error\":\"busy\",\"result\":null\x7d") ∧
      (errorReply (ascii "state") (ascii "busy")).numbersFit = true) ∧
    Json.parse (ascii "\x7b\"CMD\":\"state\",\"error\":\"busy\",\"result\":null\x7d" ++ [newline]) =
        some (errorReply (ascii "state") (ascii "busy")).canon ∧
      ((errorReply (ascii "state") (ascii "busy")).keysDistinct = true →
        (Json.parse (ascii "\x7b\"CMD\":\"state\",\"error\":\"busy\",\"result\":null\x7d" ++
          [newline])).bind Json.dump =
          some (ascii "\x7b\"CMD\":\"state\",\"error\":\"busy\",\"result\":null\x7d")) :=
  ⟨⟨rfl, rfl⟩, Json.parse_dump_line rfl rfl⟩

end Wpmd
