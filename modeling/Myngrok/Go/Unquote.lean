import Myngrok.Go.Unmarshal

namespace golang.json

section strings

variable {n fuel : Nat} {b : UInt8} {s : GoString}

theorem unhex_digit (h : n < 16) : url.unhex (hex.digit n) = some n := by
  revert n
  decide

theorem unescape_unit {a c d : UInt8} {w x y z : Nat} (ha : url.unhex a = some w) (hb : url.unhex b = some x)
    (hc : url.unhex c = some y) (hd : url.unhex d = some z)
    (hrune : ¬(0xD800 ≤ ((w * 16 + x) * 16 + y) * 16 + z ∧ ((w * 16 + x) * 16 + y) * 16 + z ≤ 0xDFFF)) (t : Bytes) :
    unescape (0x75 :: a :: b :: c :: d :: t) = some (utf8.encodeRune (((w * 16 + x) * 16 + y) * 16 + z), t) := by
  have hread : readHex (a :: b :: c :: d :: t) = some (((w * 16 + x) * 16 + y) * 16 + z, t) := by
    simp only [readHex, ha, hb, hc, hd, Option.bind_eq_bind, Option.bind_some, Option.pure_def]
  rw [unescape, hread]
  exact if_neg hrune

theorem eq_of_toNat (h : b.toNat = n) : b = UInt8.ofNat n := by
  rw [← h, UInt8.ofNat_toNat]

/-- Prepends a piece to the text that was read. -/
def prepend (piece : Bytes) (read : GoString × Bytes) : GoString × Bytes := (piece ++ read.1, read.2)

theorem unquote_unescape {e piece t : Bytes} (h : unescape (e ++ t) = some (piece, t)) (fuel : Nat) :
    unquote (fuel + 1) (0x5C :: e ++ t) = (unquote fuel t).map (prepend piece) := by
  rw [List.cons_append, unquote, if_neg (by decide), if_pos rfl, h]
  rfl

/-- What a byte was escaped to is read as that byte. -/
theorem unquote_escapeByte (hascii : b.toNat < 0x80) (fuel : Nat) (t : Bytes) :
    unquote (fuel + 1) (escapeByte b ++ t) = (unquote fuel t).map (prepend [b]) := by
  unfold escapeByte
  dsimp only
  split
  · next h =>
    refine unquote_unescape (e := [b]) ?_ fuel
    rcases h with h | h
    · rw [eq_of_toNat h]
      rfl
    · rw [eq_of_toNat h]
      rfl
  split
  · next h => rw [eq_of_toNat h]; exact unquote_unescape (e := [0x62]) rfl fuel
  split
  · next h => rw [eq_of_toNat h]; exact unquote_unescape (e := [0x66]) rfl fuel
  split
  · next h => rw [eq_of_toNat h]; exact unquote_unescape (e := [0x6E]) rfl fuel
  split
  · next h => rw [eq_of_toNat h]; exact unquote_unescape (e := [0x72]) rfl fuel
  split
  · next h => rw [eq_of_toNat h]; exact unquote_unescape (e := [0x74]) rfl fuel
  split
  · have hunit := unescape_unit (t := t) (a := 0x30) (b := 0x30) (w := 0) (x := 0) rfl rfl
      (unhex_digit (n := b.toNat / 16) (by omega))
      (unhex_digit (n := b.toNat % 16) (by omega)) (by omega)
    rw [show ((0 * 16 + 0) * 16 + b.toNat / 16) * 16 + b.toNat % 16 = b.toNat by omega, utf8.encodeRune_ascii hascii,
      UInt8.ofNat_toNat] at hunit
    exact unquote_unescape (e := [0x75, 0x30, 0x30, hex.digit (b.toNat / 16), hex.digit (b.toNat % 16)]) hunit fuel
  · next hquote _ _ _ _ _ hcontrol =>
    have hne : b ≠ 0x22 ∧ b ≠ 0x5C := by
      constructor
      · rintro rfl
        exact hquote (.inl rfl)
      · rintro rfl
        exact hquote (.inr rfl)
    rw [List.singleton_append, unquote, if_neg hne.1, if_neg hne.2, if_neg (by omega), utf8.decodeRune_ascii hascii]
    dsimp only
    rw [utf8.encodeRune_ascii hascii, UInt8.ofNat_toNat]
    rfl

theorem length_drop_decodeRune_lt (b : UInt8) (rest : Bytes) :
    ((b :: rest).drop (utf8.decodeRune (b :: rest)).2).length < (b :: rest).length := by
  have hsize := utf8.decodeRune_size_pos (List.cons_ne_nil b rest)
  rw [List.length_drop, List.length_cons]
  omega

/-- One code point of a text that was escaped is read back, or U+FFFD in place of a byte that is none. -/
theorem unquote_escapeString_cons {rest : Bytes} (fuel steps : Nat) (t : Bytes) :
    unquote (steps + 1) (escapeString (fuel + 1) (b :: rest) ++ t) =
      (unquote steps (escapeString fuel ((b :: rest).drop (utf8.decodeRune (b :: rest)).2) ++ t)).map
        (prepend (utf8.encodeRune (utf8.decodeRune (b :: rest)).1)) := by
  by_cases hascii : b.toNat < 0x80
  · rw [escapeString, if_pos hascii, List.append_assoc, unquote_escapeByte hascii, utf8.decodeRune_ascii hascii,
      utf8.encodeRune_ascii hascii, UInt8.ofNat_toNat]
    rfl
  rw [escapeString, if_neg hascii]
  dsimp only
  by_cases herror : utf8.decodeRune (b :: rest) = (utf8.runeError, 1)
  · rw [herror, if_pos ⟨rfl, rfl⟩, List.append_assoc]
    exact unquote_unescape (e := [0x75, 0x66, 0x66, 0x66, 0x64]) rfl steps
  rw [if_neg (fun h => herror (Prod.ext h.1 h.2))]
  split
  · next hline =>
    rw [List.append_assoc, List.append_assoc]
    rcases hline with hline | hline
    · rw [hline]
      exact unquote_unescape (e := [0x75, 0x32, 0x30, 0x32, 0x38]) rfl steps
    · rw [hline]
      exact unquote_unescape (e := [0x75, 0x32, 0x30, 0x32, 0x39]) rfl steps
  · have hscalar := utf8.isScalar_decodeRune b rest
    have hwide := utf8.decodeRune_wide (Nat.not_lt.mp hascii) rest
    rw [List.append_assoc, ← utf8.encodeRune_decodeRune herror]
    generalize (utf8.decodeRune (b :: rest)).1 = rune at hscalar hwide
    generalize escapeString fuel ((b :: rest).drop (utf8.decodeRune (b :: rest)).2) ++ t = more
    have hdecode := utf8.decodeRune_encodeRune_append hscalar more
    have hbytes := utf8.encodeRune_wide hwide
    obtain ⟨c, others, hcons⟩ := List.exists_cons_of_ne_nil (utf8.encodeRune_ne_nil rune)
    have hc : 0x80 ≤ c.toNat := by
      apply hbytes
      rw [hcons]
      exact List.mem_cons_self
    have hne : c ≠ 0x22 ∧ c ≠ 0x5C := by
      constructor
      · rintro rfl
        exact absurd hc (by decide)
      · rintro rfl
        exact absurd hc (by decide)
    rw [hcons, List.cons_append] at hdecode ⊢
    rw [unquote, if_neg hne.1, if_neg hne.2, if_neg (by omega), hdecode]
    dsimp only
    rw [← List.cons_append, List.drop_left, ← hcons]
    rfl

/-- A quoted text is read as the text, with U+FFFD in place of each byte that is not UTF-8. -/
theorem unquote_escapeString {steps : Nat} (hfuel : s.length ≤ fuel) (hsteps : s.length < steps) (t : Bytes) :
    unquote steps (escapeString fuel s ++ 0x22 :: t) = some (utf8.toValid s, t) := by
  induction fuel generalizing s steps with
  | zero =>
    obtain ⟨steps, rfl⟩ := Nat.exists_eq_add_of_lt hsteps
    rw [List.length_eq_zero_iff.mp (Nat.le_zero.mp hfuel)]
    rfl
  | succ fuel ih =>
    obtain ⟨steps, rfl⟩ := Nat.exists_eq_add_one_of_ne_zero (Nat.ne_zero_of_lt hsteps)
    cases s with
    | nil => rfl
    | cons b rest =>
      have hshorter := length_drop_decodeRune_lt b rest
      rw [unquote_escapeString_cons, ih (by omega) (by omega), Option.map_some, utf8.toValid_cons]
      rfl

theorem length_le_escapeString (hfuel : s.length ≤ fuel) : s.length ≤ (escapeString fuel s).length := by
  induction fuel generalizing s with
  | zero => exact Nat.le_trans hfuel (Nat.zero_le _)
  | succ fuel ih =>
    cases s with
    | nil => exact Nat.zero_le _
    | cons b rest =>
      have hbyte : 1 ≤ (escapeByte b).length := by
        unfold escapeByte
        dsimp only
        repeat' split
        all_goals exact Nat.le_of_ble_eq_true rfl
      have hsize := utf8.decodeRune_size_le (b :: rest)
      have hshorter := length_drop_decodeRune_lt b rest
      have hrest := ih (s := rest) (Nat.le_of_succ_le_succ hfuel)
      have hdrop := ih (s := (b :: rest).drop (utf8.decodeRune (b :: rest)).2) (by omega)
      rw [escapeString]
      dsimp only
      rw [List.length_drop] at hdrop
      split
      · rw [List.length_append, List.length_cons]
        omega
      split
      · rw [List.length_append, List.length_cons, show (lit "\\ufffd").length = 6 from rfl]
        omega
      split
      · next hline =>
        have hthree : (utf8.decodeRune (b :: rest)).2 ≤ 4 := utf8.decodeRune_size_le_four _
        rw [List.length_append, List.length_append, show (lit "\\u202").length = 5 from rfl]
        omega
      · rw [List.length_append, List.length_take, Nat.min_eq_left hsize]
        omega

theorem unquote_quoted (s : GoString) (t : Bytes) :
    unquote (escapeString s.length s ++ 0x22 :: t).length (escapeString s.length s ++ 0x22 :: t) =
      some (utf8.toValid s, t) := by
  have hlength := length_le_escapeString (Nat.le_refl s.length)
  apply unquote_escapeString (Nat.le_refl _)
  rw [List.length_append, List.length_cons]
  omega

end strings

section numbers

/-- What may follow a value: nothing, or the sign after an item or a member. -/
def Ends (t : Bytes) : Prop := t = [] ∨ ∃ b rest, t = b :: rest ∧ (b = 0x2C ∨ b = 0x5D ∨ b = 0x7D)

variable {t : Bytes}

theorem takeWhile_digits {digits : Bytes} (hdigits : digits.all isDigit = true) (ht : Ends t) :
    (digits ++ t).takeWhile isDigit = digits ∧ (digits ++ t).dropWhile isDigit = t := by
  have hstop : t.takeWhile isDigit = [] ∧ t.dropWhile isDigit = t := by
    rcases ht with rfl | ⟨b, rest, rfl, rfl | rfl | rfl⟩
    · exact ⟨rfl, rfl⟩
    · exact ⟨rfl, rfl⟩
    · exact ⟨rfl, rfl⟩
    · exact ⟨rfl, rfl⟩
  have hall := List.all_eq_true.mp hdigits
  rw [List.takeWhile_append_of_pos hall, List.dropWhile_append_of_pos hall, hstop.1, hstop.2, List.append_nil]
  exact ⟨rfl, rfl⟩

theorem readUnsigned_itoa (n : Nat) (ht : Ends t) : readUnsigned (itoa n ++ t) = some (itoa n, t) := by
  have hwhole : readWhole (itoa n ++ t) = some (itoa n, t) := by
    by_cases hn : n = 0
    · subst hn
      rfl
    · obtain ⟨b, rest, hitoa, hb⟩ := itoa_head hn
      have hdigits := all_isDigit_itoa n
      obtain ⟨htake, hdrop⟩ := takeWhile_digits hdigits ht
      rw [hitoa] at hdigits htake hdrop ⊢
      rw [List.all_cons, Bool.and_eq_true] at hdigits
      have hne : b ≠ 0x30 := by
        rintro rfl
        exact absurd hb (by decide)
      rw [List.cons_append] at htake hdrop ⊢
      rw [readWhole, if_neg hne, if_pos hdigits.1, htake, hdrop]
  have hfraction : readFraction t = some ([], t) := by
    rcases ht with rfl | ⟨b, rest, rfl, rfl | rfl | rfl⟩ <;> rfl
  have hexponent : readExponent t = some ([], t) := by
    rcases ht with rfl | ⟨b, rest, rfl, rfl | rfl | rfl⟩ <;> rfl
  simp only [readUnsigned, hwhole, hfraction, hexponent, Option.bind_eq_bind, Option.bind_some, Option.pure_def,
    List.append_nil]

theorem readNumber_writeInt (value : Int) (ht : Ends t) :
    readNumber (writeInt value ++ t) = some (writeInt value, t) := by
  rw [writeInt]
  split
  · rw [List.append_assoc, List.singleton_append, readNumber, if_pos rfl, readUnsigned_itoa _ ht]
    rfl
  · have hread := readUnsigned_itoa value.natAbs ht
    have hdigits := all_isDigit_itoa value.natAbs
    obtain ⟨b, rest, hitoa⟩ := List.exists_cons_of_ne_nil (itoa_ne_nil value.natAbs)
    rw [hitoa] at hread hdigits ⊢
    have hminus : b ≠ 0x2D := by
      rintro rfl
      exact absurd hdigits (by simp [isDigit, utf8.within])
    rw [List.cons_append] at hread ⊢
    rw [readNumber, if_neg hminus, hread]

end numbers

end golang.json
