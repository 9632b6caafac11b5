import Myngrok.Go.Header
import Myngrok.Go.JsonRoundTrip

namespace golang.json

/-- The folding by which `encoding/json` matches a key with the name of a field: U+017F counts as an `s` and U+212A as a
    `k`. No other code point folds to ASCII. -/
def foldRune (rune : Nat) : Nat :=
  if 0x41 ≤ rune ∧ rune ≤ 0x5A then rune + 0x20
  else if rune = 0x17F then 0x73
  else if rune = 0x212A then 0x6B
  else rune

theorem foldRune_ascii (rune : Nat) (hrune : rune < 0x80) :
    foldRune rune = if 0x41 ≤ rune ∧ rune ≤ 0x5A then rune + 0x20 else rune := by
  unfold foldRune
  rw [if_neg (show rune ≠ 0x17F by omega), if_neg (show rune ≠ 0x212A by omega)]

theorem foldRune_letter (rune : Nat) (hrune : 0x80 ≤ rune) (hascii : foldRune rune < 0x80) :
    0x61 ≤ foldRune rune ∧ foldRune rune ≤ 0x7A := by
  unfold foldRune at hascii ⊢
  rw [if_neg (show ¬ (0x41 ≤ rune ∧ rune ≤ 0x5A) by omega)] at hascii ⊢
  split
  · decide
  · split
    · decide
    · next hlong hkelvin =>
      rw [if_neg hlong, if_neg hkelvin] at hascii
      omega

def foldTable : unicode.CaseTable := { toLower := foldRune, ascii := foldRune_ascii, letter := foldRune_letter }

def isField (name key : GoString) : Bool := strings.toLowerIn foldTable key = strings.toLowerIn foldTable name

/-- Decoding into a `string` that holds `old`: null changes nothing. -/
def intoString (old : GoString) : Node → Option GoString
  | .null => some old
  | .string text => some text
  | _ => none

/-- Decoding into an `int64`, or an `int` of 64 bits. -/
def intoInt (old : Int) : Node → Option Int
  | .null => some old
  | .number literal => strconv.parseInt literal
  | _ => none

/-- Decoding into a `[]string`. -/
def intoStrings : Node → Option (List GoString)
  | .null => some []
  | .array items => items.mapM (intoString [])
  | _ => none

/-- Decoding into a `map[string][]string` that holds `old`: null makes it nil. -/
def intoHeader (old : http.Header) : Node → Option http.Header
  | .null => some ∅
  | .object members => members.foldlM (fun header member => (intoStrings member.2.2).map (header.insert member.1)) old
  | _ => none

/-- A field of a Go struct: its JSON name, and how a value is stored in it. -/
structure Field (A : Type) where
  name : GoString
  set : A → Bytes → Node → Option A

namespace Field

variable {A : Type}

def string (name : GoString) (get : A → GoString) (put : A → GoString → A) : Field A :=
  { name, set := fun a _ node => (intoString (get a) node).map (put a) }

def int (name : GoString) (get : A → Int) (put : A → Int → A) : Field A :=
  { name, set := fun a _ node => (intoInt (get a) node).map (put a) }

def header (name : GoString) (get : A → http.Header) (put : A → http.Header → A) : Field A :=
  { name, set := fun a _ node => (intoHeader (get a) node).map (put a) }

/-- A `json.RawMessage`, which gets any value as it stands. -/
def raw (name : GoString) (put : A → Bytes → A) : Field A :=
  { name, set := fun a text _ => some (put a text) }

end Field

/-- One member of an object goes into the field it names; a name that no field has is skipped. -/
def setMember {A : Type} (fields : List (Field A)) (a : A) (member : GoString × Bytes × Node) : Option A :=
  match fields.find? fun field => isField field.name member.1 with
  | none => some a
  | some field => field.set a member.2.1 member.2.2

/-- Decoding into a struct that holds `old`. -/
def intoStruct {A : Type} (fields : List (Field A)) (old : A) : Node → Option A
  | .null => some old
  | .object members => members.foldlM (setMember fields) old
  | _ => none

/-- A field that is a struct itself. -/
def Field.struct {A B : Type} (name : GoString) (fields : List (Field B)) (get : A → B) (put : A → B → A) : Field A :=
  { name, set := fun a _ node => (intoStruct fields (get a) node).map (put a) }

/-- `json.Unmarshal(data, &v)` for a struct `v` that holds `zero`. -/
def unmarshal {A : Type} (fields : List (Field A)) (zero : A) (data : Bytes) : Option A :=
  (parse data).bind (intoStruct fields zero)

section roundTrip

variable {A : Type} {fields : List (Field A)} {zero a : A} {key name : GoString} {value : Value}
  {rest : List (GoString × Value)} {node : Node} {raw : Bytes}

theorem unmarshal_encode {v : Value} (hdepth : v.depth ≤ maxNestingDepth) :
    unmarshal fields zero (encode v) = intoStruct fields zero v.node := by
  rw [unmarshal, parse_encode hdepth, Option.bind_some]

theorem intoStruct_member (h : setMember fields zero (utf8.toValid key, encode value, value.node) = some a) :
    intoStruct fields zero (Value.object ((key, value) :: rest)).node =
      intoStruct fields a (Value.object rest).node := by
  rw [Value.node, memberNodes, intoStruct, List.foldlM_cons, h, Value.node, intoStruct]
  rfl

/-- A member of an object that was written is stored in its field. -/
theorem intoStruct_cons {f : Field A}
    (hfind : (fields.find? fun field => isField field.name (utf8.toValid key)) = some f)
    (hset : f.set zero (encode value) value.node = some a) :
    intoStruct fields zero (Value.object ((key, value) :: rest)).node =
      intoStruct fields a (Value.object rest).node := by
  refine intoStruct_member ?_
  rw [setMember, hfind]
  exact hset

/-- A member that no field is for is skipped. -/
theorem intoStruct_skip (hfind : (fields.find? fun field => isField field.name (utf8.toValid key)) = none) :
    intoStruct fields zero (Value.object ((key, value) :: rest)).node =
      intoStruct fields zero (Value.object rest).node :=
  intoStruct_member (by rw [setMember, hfind])

theorem Field.set_string {get : A → GoString} {put : A → GoString → A} {value : GoString}
    (h : intoString (get a) node = some value) : (Field.string name get put).set a raw node = some (put a value) :=
  congrArg (Option.map (put a)) h

theorem Field.set_int {get : A → Int} {put : A → Int → A} {value : Int} (h : intoInt (get a) node = some value) :
    (Field.int name get put).set a raw node = some (put a value) :=
  congrArg (Option.map (put a)) h

theorem Field.set_header {get : A → http.Header} {put : A → http.Header → A} {value : http.Header}
    (h : intoHeader (get a) node = some value) : (Field.header name get put).set a raw node = some (put a value) :=
  congrArg (Option.map (put a)) h

theorem Field.set_struct {B : Type} {inner : List (Field B)} {get : A → B} {put : A → B → A} {value : B}
    (h : intoStruct inner (get a) node = some value) :
    (Field.struct name inner get put).set a raw node = some (put a value) :=
  congrArg (Option.map (put a)) h

theorem intoInt_number {value old : Int} (h : IsInt64 value) : intoInt old (Value.number value).node = some value := by
  rw [Value.node, intoInt, strconv.parseInt_writeInt h]

theorem intoStrings_array (texts : List GoString) :
    intoStrings (Value.array (texts.map .string)).node = some (texts.map utf8.toValid) := by
  have hitems : (itemNodes (texts.map .string)).mapM (intoString []) = some (texts.map utf8.toValid) := by
    induction texts with
    | nil => rfl
    | cons text rest ih =>
      rw [List.map_cons, itemNodes, List.mapM_cons, ih]
      rfl
  rw [Value.node, intoStrings, hitems]

end roundTrip

end golang.json
