import Myngrok.Go.Text

namespace golang.json

/-- The JSON values the programs write. An object keeps the order in which its members are written. -/
inductive Value where
  | null
  | string (text : GoString)
  | number (value : Int)
  | array (items : List Value)
  | object (members : List (GoString × Value))

/-- How `encoding/json` writes one ASCII byte inside a string, with its default of escaping the HTML characters. -/
def escapeByte (b : UInt8) : Bytes :=
  let x := b.toNat
  if x = 0x22 ∨ x = 0x5C then [0x5C, b]
  else if x = 0x08 then lit "\\b"
  else if x = 0x0C then lit "\\f"
  else if x = 0x0A then lit "\\n"
  else if x = 0x0D then lit "\\r"
  else if x = 0x09 then lit "\\t"
  else if x < 0x20 ∨ x = 0x3C ∨ x = 0x3E ∨ x = 0x26 then
    lit "\\u00" ++ [hex.digit (x / 16), hex.digit (x % 16)]
  else [b]

/-- The inside of a JSON string: a byte that is not UTF-8 becomes the escape of U+FFFD, and the two line separators are
    escaped as well. -/
def escapeString : Nat → GoString → Bytes
  | 0, _ => []
  | fuel + 1, s =>
    match s with
    | [] => []
    | b :: rest =>
      if b.toNat < 0x80 then escapeByte b ++ escapeString fuel rest
      else
        let (rune, size) := utf8.decodeRune s
        if rune = utf8.runeError ∧ size = 1 then lit "\\ufffd" ++ escapeString fuel rest
        else if rune = 0x2028 ∨ rune = 0x2029 then
          lit "\\u202" ++ [hex.digit (rune % 16)] ++ escapeString fuel (s.drop size)
        else s.take size ++ escapeString fuel (s.drop size)

theorem length_escapeByte_le (b : UInt8) : (escapeByte b).length ≤ 6 := by
  unfold escapeByte
  dsimp only
  repeat' split
  all_goals exact Nat.le_of_ble_eq_true rfl

/-- Escaping makes a string at most six times as long. -/
theorem length_escapeString_le (fuel : Nat) (s : GoString) : (escapeString fuel s).length ≤ 6 * s.length := by
  induction fuel generalizing s with
  | zero => exact Nat.zero_le _
  | succ fuel ih =>
    cases s with
    | nil => exact Nat.zero_le _
    | cons b rest =>
      have hsize := utf8.decodeRune_size_pos (List.cons_ne_nil b rest)
      have hrest := ih rest
      have hdrop := ih ((b :: rest).drop (utf8.decodeRune (b :: rest)).2)
      have hbyte := length_escapeByte_le b
      have hliteral : (lit "\\ufffd").length = 6 ∧ (lit "\\u202").length = 5 := ⟨rfl, rfl⟩
      rw [List.length_drop] at hdrop
      simp only [escapeString]
      split
      · simp only [List.length_append, List.length_cons]
        omega
      · split
        · simp only [List.length_append, List.length_cons, hliteral]
          omega
        · split
          · simp only [List.length_append, List.length_cons, List.length_nil, hliteral] at hdrop ⊢
            omega
          · simp only [List.length_append, List.length_take, List.length_cons] at hdrop ⊢
            omega

def quote (s : GoString) : Bytes := [0x22] ++ escapeString s.length s ++ [0x22]

theorem length_quote_le (s : GoString) : (quote s).length ≤ 6 * s.length + 2 := by
  have h := length_escapeString_le s.length s
  simp only [quote, List.length_append, List.length_singleton]
  omega

/-- A text that JSON writes as it is. -/
def Plain (s : GoString) : Prop := ∀ b ∈ s, b.toNat < 0x80 ∧ escapeByte b = [b]

variable {s : GoString}

theorem Plain.of_all (h : s.all (fun b => b.toNat < 0x80 ∧ escapeByte b = [b]) = true) : Plain s :=
  fun b hb => of_decide_eq_true (List.all_eq_true.mp h b hb)

theorem escapeString_of_plain {fuel : Nat} (hfuel : s.length ≤ fuel) (h : Plain s) : escapeString fuel s = s := by
  induction fuel generalizing s with
  | zero => rw [List.length_eq_zero_iff.mp (Nat.le_zero.mp hfuel)]; rfl
  | succ fuel ih =>
    cases s with
    | nil => rfl
    | cons b rest =>
      obtain ⟨hascii, hbyte⟩ := h b List.mem_cons_self
      rw [escapeString, if_pos hascii, hbyte, ih (Nat.le_of_succ_le_succ hfuel) fun c hc => h c (List.mem_cons_of_mem _ hc)]
      rfl

theorem quote_of_plain (h : Plain s) : quote s = [0x22] ++ s ++ [0x22] := by
  rw [quote, escapeString_of_plain (Nat.le_refl _) h]

def writeInt (value : Int) : Bytes :=
  if value < 0 then [0x2D] ++ itoa value.natAbs else itoa value.natAbs

mutual

def encode : Value → Bytes
  | .null => lit "null"
  | .string text => quote text
  | .number value => writeInt value
  | .array items => [0x5B] ++ encodeItems items ++ [0x5D]
  | .object members => [0x7B] ++ encodeMembers members ++ [0x7D]

def encodeItems : List Value → Bytes
  | [] => []
  | [item] => encode item
  | item :: rest => encode item ++ [0x2C] ++ encodeItems rest

def encodeMembers : List (GoString × Value) → Bytes
  | [] => []
  | [(key, value)] => quote key ++ [0x3A] ++ encode value
  | (key, value) :: rest => quote key ++ [0x3A] ++ encode value ++ [0x2C] ++ encodeMembers rest

end

example : encode (.object [(lit "type", .string (lit "a<b")), (lit "n", .number (-1)), (lit "h", .array [.null])]) =
    lit "\x7b\"type\":\"a\\u003cb\",\"n\":-1,\"h\":[null]\x7d" := by decide

end golang.json
