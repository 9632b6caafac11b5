import Myngrok.Go.Runtime

namespace golang

namespace utf8

/-- U+FFFD, what decoding yields for a byte that starts no valid sequence. -/
def runeError : Nat := 0xFFFD

def within (lo hi : Nat) (b : UInt8) : Bool := lo ≤ b.toNat && b.toNat ≤ hi

/-- `utf8.DecodeRune`: the first code point and the number of bytes it takes, `runeError` and one byte where the
    sequence is malformed. -/
def decodeRune (s : Bytes) : Nat × Nat :=
  match s with
  | [] => (runeError, 0)
  | b0 :: rest =>
    let x := b0.toNat
    if x < 0x80 then (x, 1)
    else if 0xC2 ≤ x ∧ x ≤ 0xDF then
      match rest with
      | b1 :: _ =>
        if within 0x80 0xBF b1 then ((x - 0xC0) * 64 + (b1.toNat - 0x80), 2) else (runeError, 1)
      | _ => (runeError, 1)
    else if 0xE0 ≤ x ∧ x ≤ 0xEF then
      match rest with
      | b1 :: b2 :: _ =>
        -- E0 and ED exclude overlong forms and surrogates.
        let lo := if x = 0xE0 then 0xA0 else 0x80
        let hi := if x = 0xED then 0x9F else 0xBF
        if within lo hi b1 && within 0x80 0xBF b2 then
          ((x - 0xE0) * 4096 + (b1.toNat - 0x80) * 64 + (b2.toNat - 0x80), 3)
        else (runeError, 1)
      | _ => (runeError, 1)
    else if 0xF0 ≤ x ∧ x ≤ 0xF4 then
      match rest with
      | b1 :: b2 :: b3 :: _ =>
        let lo := if x = 0xF0 then 0x90 else 0x80
        let hi := if x = 0xF4 then 0x8F else 0xBF
        if within lo hi b1 && within 0x80 0xBF b2 && within 0x80 0xBF b3 then
          ((x - 0xF0) * 262144 + (b1.toNat - 0x80) * 4096 + (b2.toNat - 0x80) * 64 + (b3.toNat - 0x80), 4)
        else (runeError, 1)
      | _ => (runeError, 1)
    else (runeError, 1)

/-- Decoding always moves on. -/
theorem decodeRune_size_pos {s : Bytes} (h : s ≠ []) : 1 ≤ (decodeRune s).2 := by
  unfold decodeRune
  split
  · exact absurd rfl h
  · dsimp only
    repeat' split
    all_goals exact Nat.le_of_ble_eq_true rfl

theorem decodeRune_size_le (s : Bytes) : (decodeRune s).2 ≤ s.length := by
  unfold decodeRune
  split
  · exact Nat.le_refl 0
  · dsimp only
    repeat' split
    all_goals simp

theorem decodeRune_size_le_four (s : Bytes) : (decodeRune s).2 ≤ 4 := by
  unfold decodeRune
  split
  · exact Nat.zero_le 4
  · dsimp only
    repeat' split
    all_goals exact Nat.le_of_ble_eq_true rfl

/-- How far back the last code point may start: at the nearest byte that is not a continuation byte, at most four bytes
    from the end. -/
def lastStart : Nat → Bytes → Nat
  | 0, _ => 0
  | _, [] => 0
  | fuel + 1, b :: before => if within 0x80 0xBF b then lastStart fuel before + 1 else 1

/-- `utf8.DecodeLastRune`. -/
def decodeLastRune (s : Bytes) : Nat × Nat :=
  match s.reverse with
  | [] => (runeError, 0)
  | last :: before =>
    if last.toNat < 0x80 then (last.toNat, 1)
    else
      let size := 1 + lastStart 3 before
      let decoded := decodeRune (s.drop (s.length - size))
      if decoded.2 = size then decoded else (runeError, 1)

end utf8

namespace unicode

/-- `unicode.IsSpace`. -/
def isSpace (rune : Nat) : Bool :=
  rune ∈ [0x09, 0x0A, 0x0B, 0x0C, 0x0D, 0x20, 0x85, 0xA0, 0x1680, 0x2028, 0x2029, 0x202F, 0x205F, 0x3000] ||
    (0x2000 ≤ rune && rune ≤ 0x200A)

end unicode

namespace strings

def trimLeftSpace : Nat → GoString → GoString
  | 0, s => s
  | fuel + 1, s =>
    match s with
    | [] => []
    | _ =>
      let (rune, size) := utf8.decodeRune s
      if unicode.isSpace rune then trimLeftSpace fuel (s.drop size) else s

def trimRightSpace : Nat → GoString → GoString
  | 0, s => s
  | fuel + 1, s =>
    match s with
    | [] => []
    | _ =>
      let (rune, size) := utf8.decodeLastRune s
      if unicode.isSpace rune then trimRightSpace fuel (s.take (s.length - size)) else s

/-- `strings.TrimSpace`. -/
def trimSpace (s : GoString) : GoString :=
  let s := trimLeftSpace s.length s
  trimRightSpace s.length s

/-- `strings.TrimRight(s, cutset)` for a cutset of one ASCII byte. -/
def trimRightByte (s : GoString) (cut : UInt8) : GoString :=
  (s.reverse.dropWhile (· = cut)).reverse

/-- `strings.Split(s, separator)` for a separator of one byte. -/
def splitByte (separator : UInt8) : GoString → List GoString
  | [] => [[]]
  | b :: rest =>
    match splitByte separator rest with
    | [] => [[b]]
    | first :: others => if b = separator then [] :: first :: others else (b :: first) :: others

def hasPrefix (s start : GoString) : Bool := start.isPrefixOf s

/-- `strings.HasSuffix`. -/
def hasSuffix (s stop : GoString) : Bool := stop.isSuffixOf s

/-- `strings.TrimSuffix`. -/
def trimSuffix (s stop : GoString) : GoString :=
  if hasSuffix s stop then s.take (s.length - stop.length) else s

/-- `strings.ToLower` on ASCII text. -/
def toLower (s : GoString) : GoString :=
  s.map fun b => if utf8.within 0x41 0x5A b then b + 0x20 else b

/-- `strings.EqualFold` on ASCII text. -/
def equalFold (s t : GoString) : Bool := toLower s = toLower t

/-- `strings.LastIndexByte`. -/
def lastIndexByte (s : GoString) (b : UInt8) : Option Nat :=
  (s.reverse.findIdx? (· = b)).map fun i => s.length - 1 - i

end strings

namespace hex

def digit (n : Nat) : UInt8 := UInt8.ofNat (if n < 10 then 0x30 + n else 0x57 + n)

/-- `hex.EncodeToString`. -/
def encodeToString (data : Bytes) : GoString :=
  data.flatMap fun b => [digit (b.toNat / 16), digit (b.toNat % 16)]

theorem length_encodeToString (data : Bytes) : (encodeToString data).length = 2 * data.length := by
  induction data with
  | nil => rfl
  | cons b rest ih =>
    simp only [encodeToString, List.flatMap_cons, List.length_append, List.length_cons, List.length_nil] at ih ⊢
    omega

end hex

namespace url

/-- The value of a hexadecimal digit. -/
def unhex (b : UInt8) : Option Nat :=
  if utf8.within 0x30 0x39 b then some (b.toNat - 0x30)
  else if utf8.within 0x41 0x46 b then some (b.toNat - 0x41 + 10)
  else if utf8.within 0x61 0x66 b then some (b.toNat - 0x61 + 10)
  else none

end url

namespace strconv

/-- `strconv.ParseUint(s, 10, bits)`: one or more digits, in range. -/
def parseUint (s : GoString) (bits : Nat) : Option Nat :=
  if s.isEmpty ∨ s.any (fun b => !utf8.within 0x30 0x39 b) then none
  else
    let value := s.foldl (fun value b => value * 10 + (b.toNat - 0x30)) 0
    if value < 2 ^ bits then some value else none

/-- How `strconv.Quote` writes an ASCII byte. -/
def quoteByte (b : UInt8) : GoString :=
  match b.toNat with
  | 0x07 => lit "\\a"
  | 0x08 => lit "\\b"
  | 0x09 => lit "\\t"
  | 0x0A => lit "\\n"
  | 0x0B => lit "\\v"
  | 0x0C => lit "\\f"
  | 0x0D => lit "\\r"
  | 0x22 => lit "\\\""
  | 0x5C => lit "\\\\"
  | n => if 0x20 ≤ n ∧ n < 0x7F then [b] else lit "\\x" ++ hex.encodeToString [b]

def quoteRunes : Nat → GoString → GoString
  | 0, _ => []
  | _, [] => []
  | fuel + 1, b :: rest =>
    let (rune, size) := utf8.decodeRune (b :: rest)
    if b.toNat < 0x80 ∨ (rune = utf8.runeError ∧ size = 1) then quoteByte b ++ quoteRunes fuel rest
    else (b :: rest).take size ++ quoteRunes fuel ((b :: rest).drop size)

/-- `strconv.Quote`, which is what `%q` prints. Every rune above ASCII is taken to be printable. -/
def quote (s : GoString) : GoString := lit "\"" ++ quoteRunes s.length s ++ lit "\""

example : quote (lit "a\"b\n" ++ [0xFF]) = lit "\"a\\\"b\\n\\xff\"" := by decide

end strconv

namespace net

/-- `net.SplitHostPort`; the text of its error is not used here. -/
def splitHostPort (hostport : GoString) : Option (GoString × GoString) :=
  match strings.lastIndexByte hostport 0x3A with
  | none => none
  | some i =>
    if hostport.head? = some 0x5B then
      match hostport.findIdx? (· = 0x5D) with
      | none => none
      | some stop =>
        if stop + 1 = i ∧ 0x5B ∉ hostport.drop 1 ∧ 0x5D ∉ hostport.drop (stop + 1) then
          some ((hostport.take stop).drop 1, hostport.drop (i + 1))
        else none
    else if 0x3A ∈ hostport.take i ∨ 0x5B ∈ hostport ∨ 0x5D ∈ hostport then none
    else some (hostport.take i, hostport.drop (i + 1))

end net

example : strings.trimSpace (lit " \t127.0.0.1:80  ") = lit "127.0.0.1:80" := by decide

example : strings.splitByte 44 (lit "close, x-a,") = [lit "close", lit " x-a", []] := by decide

example : net.splitHostPort (lit "[::1]:80") = some (lit "::1", lit "80") := by decide

end golang
