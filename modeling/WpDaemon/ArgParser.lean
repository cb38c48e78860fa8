import WpDaemon.Bytes

/-!
# The command line

`ArgParser::parse` walks `argv` once. A mode flag sets the mode, `--help` and `--version` set
their flags, `--port` takes the next argument through `std::stoi` (any failure gives the
default port, and a `--port` with nothing after it is ignored), another argument starting with
`-` is an unknown option, and the rest are positional. `main` then shows the help, the
version, or starts the mode. The warnings `parse` prints on `stderr` are not modelled.

The parser is a lexer followed by a fold. `tokens` reads `argv` into options as `parse` reads
it, an argument after `--port` being that option's value whatever it looks like. Every field of
the result is then a plain function of the tokens: the last mode and the last port win, and the
flags and positional arguments are collected.
-/

namespace Wpmd

namespace ArgParser

/-- `isspace` in the "C" locale: space, and tab through carriage return. -/
def isSpace (b : UInt8) : Bool := b.toNat = 32 || 9 ≤ b.toNat && b.toNat ≤ 13

/-- `isdigit`. -/
def isDigit (b : UInt8) : Bool := 48 ≤ b.toNat && b.toNat ≤ 57

/-- The sign `strtol` reads, and what follows it. -/
def readSign : Bytes → Bool × Bytes
  | b :: rest => if b = 45 then (true, rest) else if b = 43 then (false, rest) else (false, b :: rest)
  | [] => (false, [])

/-- `std::stoi`: `strtol` in base 10 skips white space, reads an optional sign and the longest
run of digits, and ignores what follows; `stoi` throws when there is no digit or the value
does not fit an `int`. `none` is the throw. -/
def stoi (s : Bytes) : Option Int :=
  let (negative, rest) := readSign (s.dropWhile isSpace)
  let digits := rest.takeWhile isDigit
  if digits.isEmpty then none
  else
    let value : Int := if negative then -(digitsValue digits : Int) else digitsValue digits
    if -2 ^ 31 ≤ value ∧ value < 2 ^ 31 then some value else none

/-- `wpmd::RunMode`. -/
inductive RunMode
  | daemon
  | interactive
  | auto
  deriving DecidableEq, Repr

/-- `wpmd::ParsedArgs`, with its defaults. -/
structure ParsedArgs where
  mode : RunMode := .auto
  positionalArgs : List Bytes := []
  showHelp : Bool := false
  showVersion : Bool := false
  port : Int := 23888
  deriving DecidableEq, Repr

/-- The port `parse` falls back to. -/
def defaultPort : Int := 23888

/-- The loop of `ArgParser::parse` over the arguments after the program's name. -/
def parseFrom (args : ParsedArgs) : List Bytes → ParsedArgs
  | [] => args
  | arg :: rest =>
    if arg = ascii "--daemon" ∨ arg = ascii "-d" then parseFrom { args with mode := .daemon } rest
    else if arg = ascii "--interactive" ∨ arg = ascii "-i" then
      parseFrom { args with mode := .interactive } rest
    else if arg = ascii "--help" ∨ arg = ascii "-h" then parseFrom { args with showHelp := true } rest
    else if arg = ascii "--version" ∨ arg = ascii "-v" then
      parseFrom { args with showVersion := true } rest
    else if arg = ascii "--port" ∨ arg = ascii "-p" then
      match rest with
      | value :: rest' => parseFrom { args with port := (stoi value).getD defaultPort } rest'
      | [] => args
    else if arg.head? = some 45 then parseFrom args rest
    else parseFrom { args with positionalArgs := args.positionalArgs ++ [arg] } rest

/-- `ArgParser::parse(argc, argv)`, given `argv[1]` onwards. -/
def parse (argv : List Bytes) : ParsedArgs := parseFrom {} argv

/-! ### Tokens -/

/-- An argument as `parse` reads it: an option, with the value of a `--port`, an unknown
option, or a positional argument. -/
inductive Token
  | mode (m : RunMode)
  | help
  | version
  | port (value : Bytes)
  | unknown
  | positional (arg : Bytes)
  deriving DecidableEq, Repr

/-- What an argument that is not a `--port` value is: `none` for `--port` itself. -/
def optionOf (arg : Bytes) : Option Token :=
  if arg = ascii "--daemon" ∨ arg = ascii "-d" then some (.mode .daemon)
  else if arg = ascii "--interactive" ∨ arg = ascii "-i" then some (.mode .interactive)
  else if arg = ascii "--help" ∨ arg = ascii "-h" then some .help
  else if arg = ascii "--version" ∨ arg = ascii "-v" then some .version
  else if arg = ascii "--port" ∨ arg = ascii "-p" then none
  else if arg.head? = some 45 then some .unknown
  else some (.positional arg)

/-- `argv` read into tokens: a `--port` takes the next argument as its value, whatever it
looks like, and a `--port` with nothing after it ends the arguments. -/
def tokens : List Bytes → List Token
  | [] => []
  | arg :: rest =>
    match optionOf arg with
    | some t => t :: tokens rest
    | none =>
      match rest with
      | value :: rest' => .port value :: tokens rest'
      | [] => []

theorem tokens_cons (arg : Bytes) (rest : List Bytes) :
    tokens (arg :: rest) = match optionOf arg with
      | some t => t :: tokens rest
      | none => match rest with
        | value :: rest' => .port value :: tokens rest'
        | [] => [] := by
  cases rest <;> simp only [tokens]

/-- The port a `--port` value sets: its `int`, or the default when `std::stoi` throws. -/
def portValue (value : Bytes) : Int := (stoi value).getD defaultPort

/-- What one token does to the parsed arguments. -/
def ParsedArgs.apply (args : ParsedArgs) : Token → ParsedArgs
  | .mode m => { args with mode := m }
  | .help => { args with showHelp := true }
  | .version => { args with showVersion := true }
  | .port value => { args with port := portValue value }
  | .unknown => args
  | .positional arg => { args with positionalArgs := args.positionalArgs ++ [arg] }

/-- A guard of `parse`'s loop is the guard of `optionOf` that gives the same turn. -/
private theorem ite_elim {c : Prop} [Decidable c] {x y n : ParsedArgs} {o p : Option Token}
    {s : Token → ParsedArgs} (hx : c → x = o.elim n s) (hy : ¬c → y = p.elim n s) :
    (if c then x else y) = (if c then o else p).elim n s := by
  by_cases h : c
  · rw [if_pos h, if_pos h]; exact hx h
  · rw [if_neg h, if_neg h]; exact hy h

/-- One turn of `parse`'s loop: the argument's option applied, or the next argument taken as
the port. -/
theorem parseFrom_cons (args : ParsedArgs) (arg : Bytes) (rest : List Bytes) :
    parseFrom args (arg :: rest) = (optionOf arg).elim
      (match rest with
        | value :: rest' => parseFrom (args.apply (.port value)) rest'
        | [] => args)
      fun t => parseFrom (args.apply t) rest := by
  unfold optionOf
  cases rest <;> simp only [parseFrom] <;>
    iterate 6 refine ite_elim (fun _ => rfl) fun _ => ?_
  all_goals rfl

/-- The loop of `parse` is a fold of `apply` over the tokens. -/
theorem parseFrom_eq_foldl : ∀ (args : ParsedArgs) (argv : List Bytes),
    parseFrom args argv = (tokens argv).foldl ParsedArgs.apply args
  | _, [] => rfl
  | args, arg :: rest => by
    rw [parseFrom_cons, tokens_cons]
    cases optionOf arg with
    | some t => exact parseFrom_eq_foldl _ rest
    | none =>
      cases rest with
      | nil => rfl
      | cons value rest' => exact parseFrom_eq_foldl _ rest'

/-- `parse` reads `argv` into tokens and applies them in order. -/
theorem parse_eq_foldl (argv : List Bytes) : parse argv = (tokens argv).foldl ParsedArgs.apply {} :=
  parseFrom_eq_foldl {} argv

/-- The value after a `--port` is taken whatever it looks like, an option included. -/
theorem tokens_port {arg : Bytes} (harg : arg = ascii "--port" ∨ arg = ascii "-p") (value : Bytes)
    (rest : List Bytes) : tokens (arg :: value :: rest) = .port value :: tokens rest := by
  have hnone : optionOf arg = none := by
    rcases harg with rfl | rfl <;> decide
  rw [tokens_cons, hnone]

/-! ### What `parse` computes -/

/-- The mode a token sets. -/
def Token.modeOf : Token → Option RunMode
  | .mode m => some m
  | _ => none

/-- The value a token gives the port. -/
def Token.portOf : Token → Option Bytes
  | .port value => some value
  | _ => none

/-- The positional argument a token is. -/
def Token.positionalOf : Token → Option Bytes
  | .positional arg => some arg
  | _ => none

/-- The arguments tokens describe, field by field, over the given ones: the last mode and the
last port win, a flag is set by any occurrence, and positional arguments are kept in order. -/
def ParsedArgs.withTokens (args : ParsedArgs) (ts : List Token) : ParsedArgs where
  mode := (ts.filterMap Token.modeOf).getLast?.getD args.mode
  positionalArgs := args.positionalArgs ++ ts.filterMap Token.positionalOf
  showHelp := args.showHelp || decide (.help ∈ ts)
  showVersion := args.showVersion || decide (.version ∈ ts)
  port := ((ts.filterMap Token.portOf).getLast?.map portValue).getD args.port

/-- Applying tokens one at a time is reading them all at once. -/
theorem foldl_apply (ts : List Token) (args : ParsedArgs) :
    ts.foldl ParsedArgs.apply args = args.withTokens ts := by
  induction ts generalizing args with
  | nil => simp [ParsedArgs.withTokens]
  | cons t ts ih =>
    rw [List.foldl_cons, ih]
    cases t <;> simp [ParsedArgs.withTokens, ParsedArgs.apply, Token.modeOf, Token.portOf,
      Token.positionalOf, List.getLast?_cons, -List.filterMap_getLast?, or_comm]

/-- Every field of what `parse` returns is read off the tokens of `argv`. -/
theorem parse_eq_withTokens (argv : List Bytes) :
    parse argv = ParsedArgs.withTokens {} (tokens argv) := by
  rw [parse_eq_foldl, foldl_apply]

/-! ### `std::stoi` on what `std::to_string` writes -/

private theorem isSpace_of_mem_decimal {n : Int} {b : UInt8} (h : b ∈ decimal n) : isSpace b = false := by
  rcases decimal_digits h with rfl | ⟨h₁, h₂⟩
  · decide
  · simp only [isSpace, Bool.or_eq_false_iff, decide_eq_false_iff_not, Bool.and_eq_false_iff]
    omega

private theorem isDigit_of_mem_decimal {m : Nat} {b : UInt8} (h : b ∈ decimal m) : isDigit b = true := by
  have := decimal_ofNat_digits h
  simp only [isDigit, Bool.and_eq_true, decide_eq_true_eq]
  exact this

/-- `strtol` skips no byte of a number's decimal form. -/
private theorem dropWhile_isSpace_decimal (n : Int) : (decimal n).dropWhile isSpace = decimal n := by
  obtain ⟨b, t, hbt⟩ := List.exists_cons_of_ne_nil (decimal_ne_nil n)
  have hb := isSpace_of_mem_decimal (hbt ▸ List.mem_cons_self b t)
  rw [hbt, List.dropWhile_cons, if_neg (by simp [hb])]

/-- `strtol` reads all the digits of a natural number's decimal form. -/
private theorem takeWhile_isDigit_decimal (m : Nat) : (decimal m).takeWhile isDigit = decimal m :=
  List.takeWhile_eq_self_iff.mpr fun _ hb => isDigit_of_mem_decimal hb

/-- A natural number's decimal form starts with a digit, not a sign. -/
private theorem readSign_decimal (m : Nat) : readSign (decimal m) = (false, decimal m) := by
  obtain ⟨b, t, hbt⟩ := List.exists_cons_of_ne_nil (decimal_ne_nil m)
  have hb := decimal_ofNat_digits (hbt ▸ List.mem_cons_self b t)
  have h45 : b ≠ 45 := fun he => absurd (he ▸ hb.1) (by decide)
  have h43 : b ≠ 43 := fun he => absurd (he ▸ hb.1) (by decide)
  rw [hbt, readSign, if_neg h45, if_neg h43]

/-- `std::stoi` reads back every `int` that `std::to_string` writes. -/
theorem stoi_decimal {n : Int} (h : -2 ^ 31 ≤ n ∧ n < 2 ^ 31) : stoi (decimal n) = some n := by
  rw [stoi, dropWhile_isSpace_decimal]
  cases n with
  | ofNat m =>
    rw [Int.ofNat_eq_coe, readSign_decimal]
    dsimp only
    rw [takeWhile_isDigit_decimal, digitsValue_decimal]
    simp [decimal_ne_nil] at h ⊢
    omega
  | negSucc m =>
    have hsign : readSign (decimal (Int.negSucc m)) = (true, decimal (m + 1 : Nat)) := by
      rw [decimal_negSucc]
      rfl
    rw [hsign]
    dsimp only
    rw [takeWhile_isDigit_decimal, digitsValue_decimal]
    simp [decimal_ne_nil, Int.negSucc_eq] at h ⊢
    omega

example : stoi (decimal 8080) = some 8080 := stoi_decimal (by decide)

/-! ### The port and `main` -/

/-- A guard of `optionOf` only chooses between tokens; none of them is a port. -/
private theorem bind_portOf_ite {c : Prop} [Decidable c] {x y : Option Token}
    (hx : x.bind Token.portOf = none) (hy : y.bind Token.portOf = none) :
    (if c then x else y).bind Token.portOf = none := by
  split
  · exact hx
  · exact hy

/-- An argument read on its own is never a port value. -/
theorem optionOf_bind_portOf (arg : Bytes) : (optionOf arg).bind Token.portOf = none := by
  unfold optionOf
  iterate 6 refine bind_portOf_ite rfl ?_
  rfl

/-- Arguments with no `--port` among them give no port value. -/
theorem tokens_filterMap_portOf {rest : List Bytes} (h : ∀ arg ∈ rest, optionOf arg ≠ none) :
    (tokens rest).filterMap Token.portOf = [] := by
  induction rest with
  | nil => rfl
  | cons arg rest ih =>
    obtain ⟨t, ht⟩ := Option.ne_none_iff_exists'.mp (h arg (List.mem_cons_self arg rest))
    have hport : t.portOf = none := by simpa [ht] using optionOf_bind_portOf arg
    rw [tokens_cons, ht, List.filterMap_cons, hport]
    exact ih fun a ha => h a (List.mem_cons_of_mem arg ha)

/-- A `--port` given an `int`, with no `--port` after it, sets the port `main` passes on. -/
theorem parse_port_decimal {n : Int} (hn : -2 ^ 31 ≤ n ∧ n < 2 ^ 31) (rest : List Bytes)
    (hrest : ∀ arg ∈ rest, optionOf arg ≠ none) :
    (parse (ascii "--port" :: decimal n :: rest)).port = n := by
  rw [parse_eq_foldl, foldl_apply, tokens_port (.inl rfl)]
  simp [ParsedArgs.withTokens, Token.portOf, tokens_filterMap_portOf hrest, portValue,
    stoi_decimal hn]

theorem parse_port_decimal_interactive :
    (-2 ^ 31 ≤ (8080 : Int) ∧ (8080 : Int) < 2 ^ 31) ∧
      (∀ arg ∈ [ascii "-i"], optionOf arg ≠ none) ∧
      (parse (ascii "--port" :: decimal 8080 :: [ascii "-i"])).port = 8080 :=
  ⟨by decide, by decide, parse_port_decimal (by decide) _ (by decide)⟩

/-- What `main` goes on to do. -/
inductive Launch
  | help
  | version
  | daemon
  | interactive (host : Bytes) (port : Int)
  | auto (port : Int)
  deriving DecidableEq, Repr

/-- `main` after `ArgParser::parse`: the help, else the version, else the mode.
`run_daemon_mode` takes no port, and the interactive client connects to `127.0.0.1`. -/
def launch (args : ParsedArgs) : Launch :=
  if args.showHelp then .help
  else if args.showVersion then .version
  else
    match args.mode with
    | .daemon => .daemon
    | .interactive => .interactive (ascii "127.0.0.1") args.port
    | .auto => .auto args.port

/-- `--help` anywhere but after a `--port` shows the help, whatever else is given. -/
theorem launch_parse_of_help {argv : List Bytes} (h : Token.help ∈ tokens argv) :
    launch (parse argv) = .help := by
  simp [launch, parse_eq_foldl, foldl_apply, ParsedArgs.withTokens, h]

theorem launch_parse_of_help_daemon :
    Token.help ∈ tokens [ascii "--daemon", ascii "-h"] ∧
      launch (parse [ascii "--daemon", ascii "-h"]) = .help :=
  ⟨by decide, launch_parse_of_help (by decide)⟩

end ArgParser

end Wpmd
