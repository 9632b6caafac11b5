import Myngrok.Go.Unquote

namespace golang.json

mutual

/-- What is read where a value was written. -/
def Value.node : Value → Node
  | .null => .null
  | .string text => .string (utf8.toValid text)
  | .number value => .number (writeInt value)
  | .array items => .array (itemNodes items)
  | .object members => .object (memberNodes members)

def itemNodes : List Value → List Node
  | [] => []
  | item :: rest => item.node :: itemNodes rest

def memberNodes : List (GoString × Value) → List (GoString × Bytes × Node)
  | [] => []
  | (key, value) :: rest => (utf8.toValid key, encode value, value.node) :: memberNodes rest

end

mutual

/-- How deep arrays and objects are nested. -/
def Value.depth : Value → Nat
  | .array items => itemsDepth items + 1
  | .object members => membersDepth members + 1
  | _ => 0

def itemsDepth : List Value → Nat
  | [] => 0
  | item :: rest => max item.depth (itemsDepth rest)

def membersDepth : List (GoString × Value) → Nat
  | [] => 0
  | (_, value) :: rest => max value.depth (membersDepth rest)

end

section signs

variable {sign b : UInt8} {t : Bytes}

theorem expect_self (hsign : isSpace sign = false) (t : Bytes) : expect sign (sign :: t) = some t := by
  rw [expect, skipSpace, List.dropWhile_cons_of_neg (by rw [hsign]; decide)]
  exact if_pos rfl

theorem expect_other (hb : isSpace b = false) (hne : b ≠ sign) (t : Bytes) : expect sign (b :: t) = none := by
  rw [expect, skipSpace, List.dropWhile_cons_of_neg (by rw [hb]; decide)]
  exact if_neg hne

theorem skipSpace_cons (hb : isSpace b = false) (t : Bytes) : skipSpace (b :: t) = b :: t := by
  rw [skipSpace, List.dropWhile_cons_of_neg (by rw [hb]; decide)]

end signs

theorem isDigit_sign : ∀ b : UInt8, isDigit b = true → isSpace b = false ∧ b ≠ 0x5D ∧ b ≠ 0x7D := by
  rintro ⟨⟨n⟩⟩
  revert n
  decide +kernel

/-- A value starts with a sign that is neither white space nor the end of something. -/
theorem encode_head (v : Value) : ∃ b rest, encode v = b :: rest ∧ isSpace b = false ∧ b ≠ 0x5D ∧ b ≠ 0x7D := by
  cases v with
  | null => exact ⟨0x6E, lit "ull", rfl, rfl, by decide, by decide⟩
  | string text =>
    exact ⟨0x22, escapeString text.length text ++ [0x22], by rw [encode, quote]; rfl, rfl, by decide, by decide⟩
  | number value =>
    rw [encode, writeInt]
    split
    · exact ⟨0x2D, itoa value.natAbs, rfl, rfl, by decide, by decide⟩
    · have hdigits := all_isDigit_itoa value.natAbs
      obtain ⟨b, rest, hitoa⟩ := List.exists_cons_of_ne_nil (itoa_ne_nil value.natAbs)
      rw [hitoa, List.all_cons, Bool.and_eq_true] at hdigits
      exact ⟨b, rest, hitoa, isDigit_sign b hdigits.1⟩
  | array items => exact ⟨0x5B, encodeItems items ++ [0x5D], by rw [encode]; rfl, rfl, by decide, by decide⟩
  | object members => exact ⟨0x7B, encodeMembers members ++ [0x7D], by rw [encode]; rfl, rfl, by decide, by decide⟩

theorem skipSpace_encode (v : Value) (t : Bytes) : skipSpace (encode v ++ t) = encode v ++ t := by
  obtain ⟨b, rest, hencode, hspace, -, -⟩ := encode_head v
  rw [hencode, List.cons_append, skipSpace_cons hspace]

theorem length_encode_pos (v : Value) : 1 ≤ (encode v).length := by
  obtain ⟨b, rest, hencode, -, -, -⟩ := encode_head v
  rw [hencode]
  exact Nat.le_add_left 1 _

theorem ends_comma (t : Bytes) : Ends (0x2C :: t) := .inr ⟨_, t, rfl, .inl rfl⟩

theorem ends_bracket (t : Bytes) : Ends (0x5D :: t) := .inr ⟨_, t, rfl, .inr (.inl rfl)⟩

theorem ends_brace (t : Bytes) : Ends (0x7D :: t) := .inr ⟨_, t, rfl, .inr (.inr rfl)⟩

theorem quote_eq_cons (s : GoString) : quote s = 0x22 :: (escapeString s.length s ++ [0x22]) := by
  rw [quote, List.append_assoc, List.singleton_append]

theorem quote_append (s : GoString) (t : Bytes) : quote s ++ t = 0x22 :: (escapeString s.length s ++ 0x22 :: t) := by
  rw [quote_eq_cons, List.cons_append, List.append_assoc, List.singleton_append]

theorem encodeItems_cons_cons (item next : Value) (others : List Value) :
    encodeItems (item :: next :: others) = encode item ++ 0x2C :: encodeItems (next :: others) := by
  rw [encodeItems, List.append_assoc, List.singleton_append]
  exact List.cons_ne_nil _ _

theorem encodeMembers_singleton (key : GoString) (value : Value) :
    encodeMembers [(key, value)] = quote key ++ 0x3A :: encode value := by
  rw [encodeMembers, List.append_assoc, List.singleton_append]

theorem encodeMembers_cons_cons (key : GoString) (value : Value) (next : GoString × Value)
    (others : List (GoString × Value)) :
    encodeMembers ((key, value) :: next :: others) =
      quote key ++ 0x3A :: (encode value ++ 0x2C :: encodeMembers (next :: others)) := by
  rw [encodeMembers]
  · simp only [List.append_assoc, List.cons_append, List.nil_append]
  · exact List.cons_ne_nil _ _

theorem encode_array_append (items : List Value) (t : Bytes) :
    encode (.array items) ++ t = 0x5B :: (encodeItems items ++ 0x5D :: t) := by
  rw [encode, List.append_assoc, List.append_assoc, List.singleton_append, List.singleton_append]

theorem encode_object_append (members : List (GoString × Value)) (t : Bytes) :
    encode (.object members) ++ t = 0x7B :: (encodeMembers members ++ 0x7D :: t) := by
  rw [encode, List.append_assoc, List.append_assoc, List.singleton_append, List.singleton_append]

section steps

variable {fuel depth : Nat} {node : Node} {t more : Bytes} {item value : Value} {nodes : List Node} {key : GoString}
  {members : List (GoString × Bytes × Node)}

theorem readValue_quote (text : GoString) (fuel depth : Nat) (t : Bytes) :
    readValue (fuel + 1) depth (quote text ++ t) = some (.string (utf8.toValid text), t) := by
  rw [quote_append, readValue, if_pos rfl, unquote_quoted]
  rfl

theorem readValue_writeInt (value : Int) (fuel depth : Nat) {t : Bytes} (ht : Ends t) :
    readValue (fuel + 1) depth (writeInt value ++ t) = some (.number (writeInt value), t) := by
  have hread := readNumber_writeInt value ht
  have hsign : ∀ b : UInt8, isDigit b = true ∨ b = 0x2D →
      b ≠ 0x22 ∧ b ≠ 0x7B ∧ b ≠ 0x5B ∧ b ≠ 0x6E ∧ b ≠ 0x74 ∧ b ≠ 0x66 := by
    rintro ⟨⟨n⟩⟩
    revert n
    decide +kernel
  obtain ⟨b, rest, hwrite, hb⟩ : ∃ b rest, writeInt value = b :: rest ∧ (isDigit b = true ∨ b = 0x2D) := by
    rw [writeInt]
    split
    · exact ⟨0x2D, itoa value.natAbs, rfl, .inr rfl⟩
    · have hdigits := all_isDigit_itoa value.natAbs
      obtain ⟨b, rest, hitoa⟩ := List.exists_cons_of_ne_nil (itoa_ne_nil value.natAbs)
      rw [hitoa, List.all_cons, Bool.and_eq_true] at hdigits
      exact ⟨b, rest, hitoa, .inl hdigits.1⟩
  obtain ⟨h1, h2, h3, h4, h5, h6⟩ := hsign b hb
  rw [hwrite, List.cons_append] at hread ⊢
  rw [readValue, if_neg h1, if_neg h2, if_neg h3, if_neg h4, if_neg h5, if_neg h6, hread]
  rfl

theorem readItems_last (h : readValue fuel depth (encode item ++ 0x5D :: t) = some (node, 0x5D :: t)) :
    readItems (fuel + 1) depth (encode item ++ 0x5D :: t) = some ([node], t) := by
  rw [readItems, skipSpace_encode, h]
  dsimp only
  rw [expect_other rfl (by decide), expect_self rfl]
  rfl

theorem readItems_more (h : readValue fuel depth (encode item ++ 0x2C :: more) = some (node, 0x2C :: more))
    (hmore : readItems fuel depth more = some (nodes, t)) :
    readItems (fuel + 1) depth (encode item ++ 0x2C :: more) = some (node :: nodes, t) := by
  rw [readItems, skipSpace_encode, h]
  dsimp only
  rw [expect_self rfl]
  dsimp only
  rw [hmore]
  rfl

theorem readMembers_last (h : readValue fuel depth (encode value ++ 0x7D :: t) = some (node, 0x7D :: t)) :
    readMembers (fuel + 1) depth (quote key ++ 0x3A :: (encode value ++ 0x7D :: t)) =
      some ([(utf8.toValid key, encode value, node)], t) := by
  rw [quote_append, readMembers, expect_self rfl, Option.bind_some, unquote_quoted]
  dsimp only
  rw [expect_self rfl, Option.map_some, skipSpace_encode]
  dsimp only
  rw [h]
  dsimp only
  rw [expect_other rfl (by decide), expect_self rfl, List.length_append, Nat.add_sub_cancel, List.take_left]
  rfl

theorem readMembers_more (h : readValue fuel depth (encode value ++ 0x2C :: more) = some (node, 0x2C :: more))
    (hmore : readMembers fuel depth more = some (members, t)) :
    readMembers (fuel + 1) depth (quote key ++ 0x3A :: (encode value ++ 0x2C :: more)) =
      some ((utf8.toValid key, encode value, node) :: members, t) := by
  rw [quote_append, readMembers, expect_self rfl, Option.bind_some, unquote_quoted]
  dsimp only
  rw [expect_self rfl, Option.map_some, skipSpace_encode]
  dsimp only
  rw [h]
  dsimp only
  rw [expect_self rfl, List.length_append, Nat.add_sub_cancel, List.take_left]
  dsimp only
  rw [hmore]
  rfl

theorem readValue_array {rest : List Value}
    (h : readItems fuel depth (encodeItems (item :: rest) ++ 0x5D :: t) = some (nodes, t)) :
    readValue (fuel + 1) (depth + 1) (encode (.array (item :: rest)) ++ t) = some (.array nodes, t) := by
  obtain ⟨b, more, hencode, hspace, hbracket, -⟩ := encode_head item
  have hitems : ∃ more, encodeItems (item :: rest) = b :: more := by
    cases rest with
    | nil =>
      refine ⟨more, ?_⟩
      rw [encodeItems, hencode]
    | cons next others =>
      refine ⟨more ++ 0x2C :: encodeItems (next :: others), ?_⟩
      rw [encodeItems_cons_cons, hencode, List.cons_append]
  obtain ⟨more, hitems⟩ := hitems
  rw [encode_array_append, readValue, if_neg (by decide), if_neg (by decide), if_pos rfl, if_neg (Nat.succ_ne_zero _),
    Nat.add_sub_cancel]
  rw [hitems] at h ⊢
  rw [List.cons_append] at h ⊢
  rw [expect_other hspace hbracket]
  dsimp only
  rw [h]
  rfl

theorem readValue_object {member : GoString × Value} {rest : List (GoString × Value)}
    (h : readMembers fuel depth (encodeMembers (member :: rest) ++ 0x7D :: t) = some (members, t)) :
    readValue (fuel + 1) (depth + 1) (encode (.object (member :: rest)) ++ t) = some (.object members, t) := by
  have hmembers : ∃ more, encodeMembers (member :: rest) = 0x22 :: more := by
    cases rest with
    | nil =>
      rw [encodeMembers_singleton, quote_eq_cons, List.cons_append]
      exact ⟨_, rfl⟩
    | cons next others =>
      rw [encodeMembers_cons_cons, quote_eq_cons, List.cons_append]
      exact ⟨_, rfl⟩
  obtain ⟨more, hmembers⟩ := hmembers
  rw [encode_object_append, readValue, if_neg (by decide), if_pos rfl, if_neg (Nat.succ_ne_zero _), Nat.add_sub_cancel]
  rw [hmembers] at h ⊢
  rw [List.cons_append] at h ⊢
  rw [expect_other rfl (by decide)]
  dsimp only
  rw [h]
  rfl

end steps

theorem exists_fuel {v : Value} {fuel : Nat} (h : 2 * (encode v).length ≤ fuel) : ∃ rest, fuel = rest + 1 := by
  have hpos := length_encode_pos v
  exact Nat.exists_eq_add_one_of_ne_zero (by omega)

mutual

/-- A value that was written is read back. -/
theorem readValue_encode : ∀ (v : Value) {fuel depth : Nat} {t : Bytes}, 2 * (encode v).length ≤ fuel →
    v.depth ≤ depth → Ends t → readValue fuel depth (encode v ++ t) = some (v.node, t)
  | .null, fuel, depth, t, hfuel, _, _ => by
    obtain ⟨fuel, rfl⟩ := exists_fuel hfuel
    rfl
  | .string text, fuel, depth, t, hfuel, _, _ => by
    obtain ⟨fuel, rfl⟩ := exists_fuel hfuel
    rw [encode, Value.node, readValue_quote]
  | .number value, fuel, depth, t, hfuel, _, ht => by
    obtain ⟨fuel, rfl⟩ := exists_fuel hfuel
    rw [encode, Value.node, readValue_writeInt value fuel depth ht]
  | .array [], fuel, depth, t, hfuel, hdepth, _ => by
    rw [Value.depth] at hdepth
    obtain ⟨depth, rfl⟩ := Nat.exists_eq_add_one_of_ne_zero (show depth ≠ 0 by omega)
    obtain ⟨fuel, rfl⟩ := exists_fuel hfuel
    rfl
  | .array (item :: rest), fuel, depth, t, hfuel, hdepth, _ => by
    obtain ⟨fuel, rfl⟩ := exists_fuel hfuel
    rw [encode, List.length_append, List.length_append, List.length_singleton, List.length_singleton] at hfuel
    rw [Value.depth] at hdepth
    obtain ⟨depth, rfl⟩ := Nat.exists_eq_add_one_of_ne_zero (show depth ≠ 0 by omega)
    rw [Value.node]
    exact readValue_array (readItems_encode (item :: rest) t (List.cons_ne_nil _ _) (by omega) (by omega))
  | .object [], fuel, depth, t, hfuel, hdepth, _ => by
    rw [Value.depth] at hdepth
    obtain ⟨depth, rfl⟩ := Nat.exists_eq_add_one_of_ne_zero (show depth ≠ 0 by omega)
    obtain ⟨fuel, rfl⟩ := exists_fuel hfuel
    rfl
  | .object (member :: rest), fuel, depth, t, hfuel, hdepth, _ => by
    obtain ⟨fuel, rfl⟩ := exists_fuel hfuel
    rw [encode, List.length_append, List.length_append, List.length_singleton, List.length_singleton] at hfuel
    rw [Value.depth] at hdepth
    obtain ⟨depth, rfl⟩ := Nat.exists_eq_add_one_of_ne_zero (show depth ≠ 0 by omega)
    rw [Value.node]
    exact readValue_object (readMembers_encode (member :: rest) t (List.cons_ne_nil _ _) (by omega) (by omega))

theorem readItems_encode : ∀ (items : List Value) {fuel depth : Nat} (t : Bytes), items ≠ [] →
    2 * (encodeItems items).length + 1 ≤ fuel → itemsDepth items ≤ depth →
    readItems fuel depth (encodeItems items ++ 0x5D :: t) = some (itemNodes items, t)
  | [], _, _, _, hne, _, _ => absurd rfl hne
  | [item], fuel, depth, t, _, hfuel, hdepth => by
    obtain ⟨fuel, rfl⟩ := Nat.exists_eq_add_one_of_ne_zero (show fuel ≠ 0 by omega)
    rw [encodeItems] at hfuel ⊢
    rw [itemsDepth] at hdepth
    exact readItems_last (readValue_encode item (by omega) (by omega) (ends_bracket t))
  | item :: next :: others, fuel, depth, t, _, hfuel, hdepth => by
    obtain ⟨fuel, rfl⟩ := Nat.exists_eq_add_one_of_ne_zero (show fuel ≠ 0 by omega)
    rw [encodeItems_cons_cons, List.length_append, List.length_cons] at hfuel
    rw [itemsDepth] at hdepth
    rw [encodeItems_cons_cons, List.append_assoc, List.cons_append, itemNodes]
    exact readItems_more (readValue_encode item (by omega) (by omega) (ends_comma _))
      (readItems_encode (next :: others) t (List.cons_ne_nil _ _) (by omega) (by omega))

theorem readMembers_encode : ∀ (members : List (GoString × Value)) {fuel depth : Nat} (t : Bytes), members ≠ [] →
    2 * (encodeMembers members).length + 1 ≤ fuel → membersDepth members ≤ depth →
    readMembers fuel depth (encodeMembers members ++ 0x7D :: t) = some (memberNodes members, t)
  | [], _, _, _, hne, _, _ => absurd rfl hne
  | [(key, value)], fuel, depth, t, _, hfuel, hdepth => by
    obtain ⟨fuel, rfl⟩ := Nat.exists_eq_add_one_of_ne_zero (show fuel ≠ 0 by omega)
    rw [encodeMembers_singleton, List.length_append, List.length_cons] at hfuel
    rw [membersDepth] at hdepth
    rw [encodeMembers_singleton, List.append_assoc, List.cons_append]
    exact readMembers_last (readValue_encode value (by omega) (by omega) (ends_brace t))
  | (key, value) :: next :: others, fuel, depth, t, _, hfuel, hdepth => by
    obtain ⟨fuel, rfl⟩ := Nat.exists_eq_add_one_of_ne_zero (show fuel ≠ 0 by omega)
    rw [encodeMembers_cons_cons, List.length_append, List.length_cons, List.length_append, List.length_cons] at hfuel
    rw [membersDepth] at hdepth
    rw [encodeMembers_cons_cons, List.append_assoc, List.cons_append, List.append_assoc, List.cons_append, memberNodes]
    exact readMembers_more (readValue_encode value (by omega) (by omega) (ends_comma _))
      (readMembers_encode (next :: others) t (List.cons_ne_nil _ _) (by omega) (by omega))

end

/-- `json.Unmarshal` reads what `json.Marshal` wrote, with U+FFFD in place of each byte of a text that is not UTF-8. -/
theorem parse_encode {v : Value} (hdepth : v.depth ≤ maxNestingDepth) : parse (encode v) = some v.node := by
  have hread : readValue (2 * (encode v).length + 2) maxNestingDepth (encode v ++ []) = some (v.node, []) :=
    readValue_encode v (Nat.le_add_right _ 2) hdepth (.inl rfl)
  have hspace := skipSpace_encode v []
  rw [List.append_nil] at hread hspace
  rw [parse, hspace, hread]
  rfl

end golang.json
