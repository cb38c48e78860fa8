import Mathlib.Data.Nat.Digits

/-!
# Byte strings

A `std::string` of the daemon is a sequence of bytes, and a path is the bytes of its
native string. The few string operations that the dispatcher, the log manager, the
configuration manager and the watchdog use are written here once, in the form the source
computes them: literals, the search for a byte, the `.conf` suffix test, substring search,
path concatenation and decimal rendering.
-/

namespace Wpmd

/-- The bytes of a `std::string`. -/
abbrev Bytes := List UInt8

/-- The bytes of an ASCII literal of the source. -/
def ascii (s : String) : Bytes := s.toList.map Char.toUInt8

/-- The byte `'\n'`. -/
def newline : UInt8 := 10

/-- `s.find(b)`: the index of the first byte `b`, or `none` for `npos`. -/
def findByte (b : UInt8) : Bytes → Option Nat
  | [] => none
  | c :: s => if c = b then some 0 else (findByte b s).map (· + 1)

/-- `s.length() >= n && s.compare(s.length() - n, n, suffix) == 0`, with `n` the length
of `suffix`. -/
def endsWith (suffix s : Bytes) : Bool :=
  decide (suffix.length ≤ s.length) && s.drop (s.length - suffix.length) == suffix

/-- `s.find(pattern) != npos`, which is also `std::regex_search` for a pattern without
special characters. -/
def containsBytes (pattern : Bytes) : Bytes → Bool
  | [] => pattern.isEmpty
  | c :: s => pattern.isPrefixOf (c :: s) || containsBytes pattern s

/-- `std::filesystem::path::operator/` on POSIX: an absolute right operand replaces the
left one, otherwise one separator joins them. -/
def joinPath (dir name : Bytes) : Bytes :=
  if name.head? = some 47 then name else dir ++ 47 :: name

/-- `std::to_string` of a signed integer: decimal digits after a `-` for negatives. -/
def decimal (n : Int) : Bytes := ascii (toString n)

/-- `s.c_str()` as a C function reads it: the bytes before the first NUL. A `std::string` may
hold NUL bytes; `fopen`, `stat` and `printf("%s")` see only what precedes the first. -/
def cString (s : Bytes) : Bytes := s.takeWhile (· != 0)

@[simp] theorem findByte_nil (b : UInt8) : findByte b [] = none := rfl

theorem findByte_cons (b c : UInt8) (s : Bytes) :
    findByte b (c :: s) = if c = b then some 0 else (findByte b s).map (· + 1) := rfl

/-- The byte `findByte` reports is the searched one, and no earlier byte is. -/
theorem findByte_eq_some {b : UInt8} {s : Bytes} {i : Nat} (h : findByte b s = some i) :
    s[i]? = some b ∧ ∀ j < i, s[j]? ≠ some b := by
  induction s generalizing i with
  | nil => simp at h
  | cons c s ih =>
    rw [findByte_cons] at h
    split at h
    · cases h
      simp_all
    · obtain ⟨k, hk, rfl⟩ := Option.map_eq_some'.mp h
      refine ⟨by simpa using (ih hk).1, fun j hj => ?_⟩
      cases j with
      | zero => simpa
      | succ j => simpa using (ih hk).2 j (by omega)

/-- `findByte` misses exactly the strings without the byte. -/
theorem findByte_eq_none {b : UInt8} {s : Bytes} : findByte b s = none ↔ b ∉ s := by
  induction s with
  | nil => simp
  | cons c s ih =>
    rw [findByte_cons]
    split
    · simp_all
    · rename_i hcb
      simp [Option.map_eq_none', ih, Ne.symm hcb]

/-- The first occurrence of a byte the prefix does not hold is right after the prefix. -/
theorem findByte_append_cons {b : UInt8} {l : Bytes} (hl : b ∉ l) (r : Bytes) :
    findByte b (l ++ b :: r) = some l.length := by
  induction l with
  | nil => simp [findByte_cons]
  | cons c l ih =>
    have hc : c ≠ b := fun h => hl (h ▸ List.mem_cons_self c l)
    simp [findByte_cons, hc, ih (fun h => hl (List.mem_cons_of_mem c h))]

/-- A string that ends with `suffix` is what precedes it followed by `suffix`. -/
theorem take_append_of_endsWith {suffix s : Bytes} (h : endsWith suffix s = true) :
    s.take (s.length - suffix.length) ++ suffix = s := by
  simp only [endsWith, Bool.and_eq_true, decide_eq_true_eq, beq_iff_eq] at h
  conv_rhs => rw [← List.take_append_drop (s.length - suffix.length) s, h.2]

/-- A string ends with what was appended to it. -/
@[simp] theorem endsWith_append (s suffix : Bytes) : endsWith suffix (s ++ suffix) = true := by
  simp [endsWith]

/-- A byte other than NUL is kept. -/
theorem cString_cons_of_ne {b : UInt8} (h : b ≠ 0) (s : Bytes) : cString (b :: s) = b :: cString s :=
  List.takeWhile_cons_of_pos (bne_iff_ne.mpr h)

/-- A NUL-free prefix is kept, and the cut falls in what follows it. -/
theorem cString_append_of_not_mem {a : Bytes} (h : 0 ∉ a) (b : Bytes) :
    cString (a ++ b) = a ++ cString b :=
  List.takeWhile_append_of_pos fun _ hx => bne_iff_ne.mpr fun h0 => h (h0 ▸ hx)

/-- Digits read back left to right, each byte counting as its offset from `'0'`: the value
`strtol` accumulates. -/
def digitsValue (s : Bytes) : Nat := s.foldl (fun acc b => 10 * acc + (b.toNat - 48)) 0

private theorem digitsValue_append_singleton (s : Bytes) (b : UInt8) :
    digitsValue (s ++ [b]) = 10 * digitsValue s + (b.toNat - 48) := by
  simp [digitsValue, List.foldl_append]

/-- The bytes of the digit characters `std::to_string` writes. -/
theorem digitChar_toUInt8 : ∀ k < 10, (Nat.digitChar k).toUInt8.toNat = 48 + k := by decide

/-- Digits already produced stay at the end while `toDigitsCore` prepends. -/
private theorem toDigitsCore_append (f n : Nat) (ds : List Char) :
    Nat.toDigitsCore 10 f n ds = Nat.toDigitsCore 10 f n [] ++ ds := by
  induction f generalizing n ds with
  | zero => rfl
  | succ f ih =>
    simp only [Nat.toDigitsCore]
    split
    · rfl
    · rw [ih _ (_ :: ds), ih _ [_]]
      simp

/-- Reading the digits back gives the number, given enough fuel. -/
private theorem digitsValue_toDigitsCore {f n : Nat} (h : n < f) :
    digitsValue ((Nat.toDigitsCore 10 f n []).map Char.toUInt8) = n := by
  induction f generalizing n with
  | zero => omega
  | succ f ih =>
    have hd := digitChar_toUInt8 (n % 10) (Nat.mod_lt _ (by omega))
    simp only [Nat.toDigitsCore]
    split
    · simp [digitsValue, hd]
      omega
    · rw [toDigitsCore_append, List.map_append, List.map_singleton, digitsValue_append_singleton,
        ih (by omega), hd]
      omega

/-- `toDigitsCore` writes only digit characters in front of what it was given. -/
private theorem mem_toDigitsCore {f n : Nat} {ds : List Char} {c : Char}
    (h : c ∈ Nat.toDigitsCore 10 f n ds) : c ∈ ds ∨ ∃ k < 10, c = Nat.digitChar k := by
  induction f generalizing n ds with
  | zero => exact .inl h
  | succ f ih =>
    simp only [Nat.toDigitsCore] at h
    split at h
    · exact (List.mem_cons.mp h).elim (fun h => .inr ⟨_, Nat.mod_lt _ (by omega), h⟩) .inl
    · exact (ih h).elim (fun h => (List.mem_cons.mp h).elim
        (fun h => .inr ⟨_, Nat.mod_lt _ (by omega), h⟩) .inl) .inr

/-- A non-negative number is its digits. -/
theorem decimal_ofNat (m : Nat) : decimal m = (Nat.toDigits 10 m).map Char.toUInt8 := rfl

/-- A negative number is a `-` and the digits of its magnitude. -/
theorem decimal_negSucc (m : Nat) :
    decimal (Int.negSucc m) = 45 :: (Nat.toDigits 10 (m + 1)).map Char.toUInt8 := rfl

/-- Reading the digits of a natural number back gives the number. -/
theorem digitsValue_decimal (m : Nat) : digitsValue (decimal m) = m :=
  digitsValue_toDigitsCore (Nat.lt_succ_self m)

/-- `std::to_string` writes at least one character. -/
theorem decimal_ne_nil : ∀ n : Int, decimal n ≠ []
  | .negSucc _ => List.cons_ne_nil _ _
  | .ofNat m => fun h => by
    have hm : m = 0 := by rw [← digitsValue_decimal m, ← Int.ofNat_eq_coe, h]; rfl
    subst hm
    exact absurd h (by decide)

/-- Distinct numbers are written differently. -/
theorem decimal_injective : Function.Injective decimal := by
  have hneg (m : Nat) : digitsValue (decimal (Int.negSucc m)) = m + 1 :=
    digitsValue_toDigitsCore (Nat.lt_succ_self (m + 1))
  have hmix (m k : Nat) (h : decimal m = decimal (Int.negSucc k)) : False := by
    have hv : m = k + 1 := by rw [← digitsValue_decimal m, h, hneg]
    rw [decimal_negSucc, hv] at h
    exact List.cons_ne_self _ _ h.symm
  intro a b h
  cases a with
  | ofNat m =>
    cases b with
    | ofNat k =>
      exact congrArg Int.ofNat
        ((digitsValue_decimal m).symm.trans ((congrArg digitsValue h).trans (digitsValue_decimal k)))
    | negSucc k => exact (hmix m k h).elim
  | negSucc m =>
    cases b with
    | ofNat k => exact (hmix k m h.symm).elim
    | negSucc k =>
      have := congrArg digitsValue h
      rw [hneg, hneg] at this
      rw [Nat.succ_inj'.mp this]

/-- `std::to_string` of a natural number writes only digits. -/
theorem decimal_ofNat_digits {m : Nat} {b : UInt8} (h : b ∈ decimal m) :
    48 ≤ b.toNat ∧ b.toNat ≤ 57 := by
  obtain ⟨c, hc, rfl⟩ := List.mem_map.mp h
  rcases mem_toDigitsCore hc with hc | ⟨k, hk, rfl⟩
  · simp at hc
  · rw [digitChar_toUInt8 k hk]; omega

/-- `std::to_string` of an integer writes only digits and a `-`. -/
theorem decimal_digits {n : Int} {b : UInt8} (h : b ∈ decimal n) :
    b = 45 ∨ 48 ≤ b.toNat ∧ b.toNat ≤ 57 := by
  cases n with
  | ofNat m => exact .inr (decimal_ofNat_digits h)
  | negSucc m =>
    rw [decimal_negSucc] at h
    exact (List.mem_cons.mp h).imp id fun hb => decimal_ofNat_digits (m := m + 1) hb

/-- A string split at the first occurrence of a byte splits one way only. -/
theorem append_cons_inj_of_not_mem {c : UInt8} {x y s t : Bytes} (hx : c ∉ x) (hy : c ∉ y)
    (h : x ++ c :: s = y ++ c :: t) : x = y ∧ s = t := by
  induction x generalizing y with
  | nil =>
    cases y with
    | nil => simpa using h
    | cons b y =>
      obtain ⟨rfl, -⟩ := List.cons.inj h
      exact absurd (List.mem_cons_self _ y) hy
  | cons a x ih =>
    cases y with
    | nil =>
      obtain ⟨rfl, -⟩ := List.cons.inj h
      exact absurd (List.mem_cons_self _ x) hx
    | cons b y =>
      obtain ⟨rfl, htail⟩ := List.cons.inj h
      obtain ⟨rfl, rfl⟩ := ih (fun hm => hx (List.mem_cons_of_mem _ hm))
        (fun hm => hy (List.mem_cons_of_mem _ hm)) htail
      exact ⟨rfl, rfl⟩

end Wpmd
