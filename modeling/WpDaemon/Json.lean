import Mathlib.Data.List.Sort
import WpDaemon.Bytes

/-!
# Replies and their serialization

Every reply of the daemon is an `nlohmann::json` object with the keys `CMD`, `result` and
`error`, and `TCPServer::process_client` sends `response.dump()`. The serializer runs with
its default strict error handler: a string that is not UTF-8 makes `dump` throw
`type_error` 316 instead of returning text. `Json.dump` models that serializer, `none`
standing for the throw; an object is a `std::map`, so its members come out sorted by key.
-/

namespace Wpmd

/-- A value of `nlohmann::json`, as far as the daemon's replies use them. -/
inductive Json where
  | null
  | boolean (b : Bool)
  | number (n : Int)
  | string (s : Bytes)
  | array (items : List Json)
  | object (fields : List (Bytes × Json))
  deriving Repr

/-- Where nlohmann's UTF-8 decoder stands between two bytes: the continuation bytes still
owed, and the range the next one must fall in. -/
structure Utf8Decoder where
  owed : Nat
  low : UInt8
  high : UInt8
  deriving DecidableEq, Repr

/-- The decoder between two characters (`UTF8_ACCEPT`). -/
def Utf8Decoder.accept : Utf8Decoder := ⟨0, 0x80, 0xBF⟩

/-- One byte through the decoder, `none` being `UTF8_REJECT`: the well-formed sequences of
RFC 3629, without overlong forms and surrogates. -/
def Utf8Decoder.step (d : Utf8Decoder) (b : UInt8) : Option Utf8Decoder :=
  if d.owed = 0 then
    if b ≤ 0x7F then some accept
    else if 0xC2 ≤ b ∧ b ≤ 0xDF then some ⟨1, 0x80, 0xBF⟩
    else if b = 0xE0 then some ⟨2, 0xA0, 0xBF⟩
    else if (0xE1 ≤ b ∧ b ≤ 0xEC) ∨ b = 0xEE ∨ b = 0xEF then some ⟨2, 0x80, 0xBF⟩
    else if b = 0xED then some ⟨2, 0x80, 0x9F⟩
    else if b = 0xF0 then some ⟨3, 0x90, 0xBF⟩
    else if 0xF1 ≤ b ∧ b ≤ 0xF3 then some ⟨3, 0x80, 0xBF⟩
    else if b = 0xF4 then some ⟨3, 0x80, 0x8F⟩
    else none
  else if d.low ≤ b ∧ b ≤ d.high then some ⟨d.owed - 1, 0x80, 0xBF⟩
  else none

/-- The decoder after a whole string, `none` once it has rejected a byte. -/
def Utf8Decoder.run (d : Utf8Decoder) : Bytes → Option Utf8Decoder
  | [] => some d
  | b :: s => (d.step b).bind (·.run s)

/-- `dump_escaped` accepts a string when the decoder never rejects and ends between two
characters; otherwise the strict handler throws. -/
def utf8Valid (s : Bytes) : Bool :=
  (Utf8Decoder.accept.run s).any (·.owed == 0)

/-- A lowercase hexadecimal digit, as `%04x` prints it. -/
def hexDigit (n : UInt8) : UInt8 :=
  if n < 10 then 48 + n else 87 + n

/-- The bytes `dump_escaped` writes for one byte of a valid string: the two-character
escapes, `\u00XX` for the other control bytes, and every other byte as it is. -/
def escapeByte (b : UInt8) : Bytes :=
  if b = 0x08 then ascii "\\b"
  else if b = 0x09 then ascii "\\t"
  else if b = 0x0A then ascii "\\n"
  else if b = 0x0C then ascii "\\f"
  else if b = 0x0D then ascii "\\r"
  else if b = 0x22 then ascii "\\\""
  else if b = 0x5C then ascii "\\\\"
  else if b ≤ 0x1F then ascii "\\u00" ++ [hexDigit (b / 16), hexDigit (b % 16)]
  else [b]

/-- A quoted, escaped string, or the throw of the strict error handler. -/
def dumpString (s : Bytes) : Option Bytes :=
  if utf8Valid s then some (34 :: (s.map escapeByte).flatten ++ [34]) else none

/-- `basic_json::dump()` with no indentation: the text of a value, or `none` where the
serializer throws `type_error` 316. Object members come out in the order of their keys. -/
def Json.dump : Json → Option Bytes
  | .null => some (ascii "null")
  | .boolean b => some (ascii (if b then "true" else "false"))
  | .number n => some (decimal n)
  | .string s => dumpString s
  | .array items => (dumpItems items).map fun parts => [91] ++ [44].intercalate parts ++ [93]
  | .object fields => (dumpFields fields).map fun members =>
      [123] ++ [44].intercalate ((members.insertionSort (·.1 ≤ ·.1)).map (·.2)) ++ [125]
where
  /-- The texts of the elements of an array. -/
  dumpItems : List Json → Option (List Bytes)
    | [] => some []
    | j :: js => j.dump.bind fun a => (dumpItems js).map (a :: ·)
  /-- Each member's key with its text `"key":value`. -/
  dumpFields : List (Bytes × Json) → Option (List (Bytes × Bytes))
    | [] => some []
    | (k, j) :: fs => (dumpString k).bind fun key => j.dump.bind fun value =>
        (dumpFields fs).map ((k, key ++ 58 :: value) :: ·)

/-- `{"CMD": cmd, "result": result, "error": error}`: the shape of every reply. -/
def reply (cmd : Bytes) (result error : Json) : Json :=
  .object [(ascii "CMD", .string cmd), (ascii "result", result), (ascii "error", error)]

/-- A failure: `result` is null and `error` carries the message. -/
def errorReply (cmd message : Bytes) : Json := reply cmd .null (.string message)

/-- A success: `error` is null. -/
def resultReply (cmd : Bytes) (result : Json) : Json := reply cmd result .null

/-- A string member of a result object. -/
def Json.text (s : String) : Json := .string (ascii s)

/-- A reply whose command name is not UTF-8 cannot be serialized. -/
theorem reply_dump_eq_none {cmd : Bytes} (h : utf8Valid cmd = false) (result error : Json) :
    (reply cmd result error).dump = none := by
  simp [reply, Json.dump, Json.dump.dumpFields, dumpString, h]

end Wpmd
