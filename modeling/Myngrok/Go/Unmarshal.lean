import Myngrok.Go.Decimal
import Myngrok.Go.Utf8

namespace golang.json

/-- A JSON text that has been read. A number keeps its digits, and a member of an object the bytes of its value, which
    are what a `json.RawMessage` gets. -/
inductive Node where
  | null
  | bool (value : Bool)
  | number (literal : Bytes)
  | string (text : GoString)
  | array (items : List Node)
  | object (members : List (GoString × Bytes × Node))

def maxNestingDepth : Nat := 10000

def isSpace (b : UInt8) : Bool := b = 0x20 || b = 0x09 || b = 0x0A || b = 0x0D

def skipSpace (s : Bytes) : Bytes := s.dropWhile isSpace

/-- Takes a sign off the text, with the white space before it. -/
def expect (sign : UInt8) (s : Bytes) : Option Bytes :=
  match skipSpace s with
  | [] => none
  | b :: rest => if b = sign then some rest else none

def expectWord (word s : Bytes) : Option Bytes :=
  if word.isPrefixOf s then some (s.drop word.length) else none

/-- The four digits of a `\u` escape. -/
def readHex : Bytes → Option (Nat × Bytes)
  | a :: b :: c :: d :: rest => do
    let a ← url.unhex a
    let b ← url.unhex b
    let c ← url.unhex c
    let d ← url.unhex d
    return (((a * 16 + b) * 16 + c) * 16 + d, rest)
  | _ => none

/-- The second half of a surrogate pair: the code point and what follows, if there is one. -/
def readSurrogate (high : Nat) : Bytes → Option (Nat × Bytes)
  | slash :: u :: rest =>
    if slash = 0x5C ∧ u = 0x75 then do
      let (low, rest) ← readHex rest
      if high < 0xDC00 ∧ 0xDC00 ≤ low ∧ low ≤ 0xDFFF then
        return ((high - 0xD800) * 1024 + (low - 0xDC00) + 0x10000, rest)
      else none
    else none
  | _ => none

/-- What the escape after a backslash stands for. Half a surrogate pair is read as U+FFFD. -/
def unescape : Bytes → Option (Bytes × Bytes)
  | [] => none
  | b :: rest =>
    if b = 0x22 ∨ b = 0x5C ∨ b = 0x2F then some ([b], rest)
    else if b = 0x62 then some ([0x08], rest)
    else if b = 0x66 then some ([0x0C], rest)
    else if b = 0x6E then some ([0x0A], rest)
    else if b = 0x72 then some ([0x0D], rest)
    else if b = 0x74 then some ([0x09], rest)
    else if b = 0x75 then
      match readHex rest with
      | none => none
      | some (rune, rest) =>
        if 0xD800 ≤ rune ∧ rune ≤ 0xDFFF then
          match readSurrogate rune rest with
          | some (rune, rest) => some (utf8.encodeRune rune, rest)
          | none => some (utf8.encodeRune utf8.runeError, rest)
        else some (utf8.encodeRune rune, rest)
    else none

/-- The text up to the closing quote. Bytes that are not UTF-8 are replaced. -/
def unquote : Nat → Bytes → Option (GoString × Bytes)
  | 0, _ => none
  | _ + 1, [] => none
  | fuel + 1, b :: rest =>
    if b = 0x22 then some ([], rest)
    else if b = 0x5C then
      match unescape rest with
      | none => none
      | some (piece, rest) => (unquote fuel rest).map fun (text, rest) => (piece ++ text, rest)
    else if b.toNat < 0x20 then none
    else
      let (rune, size) := utf8.decodeRune (b :: rest)
      (unquote fuel ((b :: rest).drop size)).map fun (text, rest) => (utf8.encodeRune rune ++ text, rest)

def readWhole : Bytes → Option (Bytes × Bytes)
  | [] => none
  | b :: rest =>
    if b = 0x30 then some ([b], rest)
    else if isDigit b then some ((b :: rest).takeWhile isDigit, (b :: rest).dropWhile isDigit)
    else none

/-- One digit or more, after the signs that stand before them. -/
def readDigits (before s : Bytes) : Option (Bytes × Bytes) :=
  if s.takeWhile isDigit = [] then none else some (before ++ s.takeWhile isDigit, s.dropWhile isDigit)

def readFraction : Bytes → Option (Bytes × Bytes)
  | [] => some ([], [])
  | b :: rest => if b = 0x2E then readDigits [b] rest else some ([], b :: rest)

def readExponent : Bytes → Option (Bytes × Bytes)
  | [] => some ([], [])
  | b :: rest =>
    if b = 0x65 ∨ b = 0x45 then
      match rest with
      | [] => none
      | sign :: digits => if sign = 0x2B ∨ sign = 0x2D then readDigits [b, sign] digits else readDigits [b] rest
    else some ([], b :: rest)

/-- A number without its sign. -/
def readUnsigned (s : Bytes) : Option (Bytes × Bytes) := do
  let (whole, s) ← readWhole s
  let (fraction, s) ← readFraction s
  let (exponent, s) ← readExponent s
  return (whole ++ fraction ++ exponent, s)

def readNumber : Bytes → Option (Bytes × Bytes)
  | [] => none
  | b :: rest =>
    if b = 0x2D then (readUnsigned rest).map fun (literal, rest) => (b :: literal, rest)
    else readUnsigned (b :: rest)

mutual

/-- One value at the front of a text, and what follows it. -/
def readValue : Nat → Nat → Bytes → Option (Node × Bytes)
  | 0, _, _ => none
  | _ + 1, _, [] => none
  | fuel + 1, depth, b :: rest =>
    if b = 0x22 then (unquote rest.length rest).map fun (text, rest) => (.string text, rest)
    else if b = 0x7B then
      if depth = 0 then none
      else match expect 0x7D rest with
        | some rest => some (.object [], rest)
        | none => (readMembers fuel (depth - 1) rest).map fun (members, rest) => (.object members, rest)
    else if b = 0x5B then
      if depth = 0 then none
      else match expect 0x5D rest with
        | some rest => some (.array [], rest)
        | none => (readItems fuel (depth - 1) rest).map fun (items, rest) => (.array items, rest)
    else if b = 0x6E then (expectWord (lit "null") (b :: rest)).map fun rest => (.null, rest)
    else if b = 0x74 then (expectWord (lit "true") (b :: rest)).map fun rest => (.bool true, rest)
    else if b = 0x66 then (expectWord (lit "false") (b :: rest)).map fun rest => (.bool false, rest)
    else (readNumber (b :: rest)).map fun (literal, rest) => (.number literal, rest)

/-- The items of an array, one or more, with the closing bracket. -/
def readItems : Nat → Nat → Bytes → Option (List Node × Bytes)
  | 0, _, _ => none
  | fuel + 1, depth, s =>
    match readValue fuel depth (skipSpace s) with
    | none => none
    | some (item, rest) =>
      match expect 0x2C rest with
      | some rest => (readItems fuel depth rest).map fun (items, rest) => (item :: items, rest)
      | none => (expect 0x5D rest).map fun rest => ([item], rest)

/-- The members of an object, one or more, with the closing brace. -/
def readMembers : Nat → Nat → Bytes → Option (List (GoString × Bytes × Node) × Bytes)
  | 0, _, _ => none
  | fuel + 1, depth, s =>
    match (expect 0x22 s).bind fun rest => unquote rest.length rest with
    | none => none
    | some (key, rest) =>
      match (expect 0x3A rest).map skipSpace with
      | none => none
      | some text =>
        match readValue fuel depth text with
        | none => none
        | some (node, rest) =>
          let member := (key, text.take (text.length - rest.length), node)
          match expect 0x2C rest with
          | some rest => (readMembers fuel depth rest).map fun (members, rest) => (member :: members, rest)
          | none => (expect 0x7D rest).map fun rest => ([member], rest)

end

/-- The text that `json.Unmarshal` was given, if it is JSON. Two rounds for each byte are more than a text can take. -/
def parse (data : Bytes) : Option Node :=
  match readValue (2 * data.length + 2) maxNestingDepth (skipSpace data) with
  | none => none
  | some (node, rest) => if skipSpace rest = [] then some node else none

end golang.json
