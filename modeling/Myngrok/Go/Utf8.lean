import Myngrok.Go.Unicode

namespace golang.utf8

/-- Texts by their code points: a claim about what is left once the first one is taken off carries over to the text. -/
@[elab_as_elim]
theorem rune_induction {motive : Bytes → Prop} (nil : motive [])
    (rune : ∀ b rest, motive ((b :: rest).drop (decodeRune (b :: rest)).2) → motive (b :: rest)) (s : Bytes) :
    motive s := by
  induction hlength : s.length using Nat.strongRecOn generalizing s with
  | ind n ih =>
    cases s with
    | nil => exact nil
    | cons b rest =>
      apply rune
      have hsize := decodeRune_size_pos (List.cons_ne_nil b rest)
      refine ih _ ?_ _ rfl
      rw [List.length_drop, ← hlength, List.length_cons]
      omega

/-- The code points that UTF-8 encodes: the surrogates are none. -/
def IsScalar (rune : Nat) : Prop := rune < 0xD800 ∨ (0xE000 ≤ rune ∧ rune ≤ 0x10FFFF)

def IsContinuation (b : UInt8) : Prop := 0x80 ≤ b.toNat ∧ b.toNat ≤ 0xBF

/-- What decoding yields at the front of a text: one of the four forms, or an error that takes one byte. -/
inductive Decodes : Bytes → Nat × Nat → Prop where
  | one {b0 : UInt8} {rest} (h0 : b0.toNat < 0x80) : Decodes (b0 :: rest) (b0.toNat, 1)
  | two {b0 b1 : UInt8} {rest} (h0 : 0xC2 ≤ b0.toNat ∧ b0.toNat ≤ 0xDF) (h1 : IsContinuation b1) :
    Decodes (b0 :: b1 :: rest) ((b0.toNat - 0xC0) * 64 + (b1.toNat - 0x80), 2)
  | three {b0 b1 b2 : UInt8} {rest} (h0 : 0xE0 ≤ b0.toNat ∧ b0.toNat ≤ 0xEF) (h1 : IsContinuation b1)
      (h2 : IsContinuation b2) (hoverlong : b0.toNat = 0xE0 → 0xA0 ≤ b1.toNat)
      (hsurrogate : b0.toNat = 0xED → b1.toNat ≤ 0x9F) :
    Decodes (b0 :: b1 :: b2 :: rest) ((b0.toNat - 0xE0) * 4096 + (b1.toNat - 0x80) * 64 + (b2.toNat - 0x80), 3)
  | four {b0 b1 b2 b3 : UInt8} {rest} (h0 : 0xF0 ≤ b0.toNat ∧ b0.toNat ≤ 0xF4) (h1 : IsContinuation b1)
      (h2 : IsContinuation b2) (h3 : IsContinuation b3) (hoverlong : b0.toNat = 0xF0 → 0x90 ≤ b1.toNat)
      (hlast : b0.toNat = 0xF4 → b1.toNat ≤ 0x8F) :
    Decodes (b0 :: b1 :: b2 :: b3 :: rest)
        ((b0.toNat - 0xF0) * 262144 + (b1.toNat - 0x80) * 4096 + (b2.toNat - 0x80) * 64 + (b3.toNat - 0x80), 4)
  | malformed {b0 : UInt8} {rest} (h0 : 0x80 ≤ b0.toNat) : Decodes (b0 :: rest) (runeError, 1)

variable {b : UInt8} {s : GoString}

theorem within_iff {lo hi : Nat} : within lo hi b = true ↔ lo ≤ b.toNat ∧ b.toNat ≤ hi := by
  simp only [within, Bool.and_eq_true, decide_eq_true_eq]

/-- The second byte of the longer forms, whose range is narrower after some first bytes. -/
theorem within_second {x low high lo hi : Nat} (hlo : 0x80 ≤ lo) (hhi : hi ≤ 0xBF)
    (h : within (if x = low then lo else 0x80) (if x = high then hi else 0xBF) b = true) :
    IsContinuation b ∧ (x = low → lo ≤ b.toNat) ∧ (x = high → b.toNat ≤ hi) := by
  rw [within_iff] at h
  unfold IsContinuation
  split at h
  · split at h
    · omega
    · omega
  · split at h
    · omega
    · omega

theorem decodes_decodeRune (b0 : UInt8) (rest : Bytes) : Decodes (b0 :: rest) (decodeRune (b0 :: rest)) := by
  unfold decodeRune
  dsimp only
  by_cases hascii : b0.toNat < 0x80
  · rw [if_pos hascii]
    exact .one hascii
  have hmalformed : ∀ {rest}, Decodes (b0 :: rest) (runeError, 1) := .malformed (Nat.not_lt.mp hascii)
  rw [if_neg hascii]
  by_cases htwo : 0xC2 ≤ b0.toNat ∧ b0.toNat ≤ 0xDF
  · rw [if_pos htwo]
    split
    · next b1 _ =>
      by_cases h1 : within 0x80 0xBF b1 = true
      · rw [if_pos h1]
        exact .two htwo (within_iff.mp h1)
      · rw [if_neg h1]
        exact hmalformed
    · exact hmalformed
  rw [if_neg htwo]
  by_cases hthree : 0xE0 ≤ b0.toNat ∧ b0.toNat ≤ 0xEF
  · rw [if_pos hthree]
    split
    · next b1 b2 _ =>
      by_cases h : (within (if b0.toNat = 0xE0 then 0xA0 else 0x80) (if b0.toNat = 0xED then 0x9F else 0xBF) b1 &&
          within 0x80 0xBF b2) = true
      · rw [if_pos h]
        rw [Bool.and_eq_true] at h
        obtain ⟨h1, hoverlong, hsurrogate⟩ := within_second (by decide) (by decide) h.1
        exact .three hthree h1 (within_iff.mp h.2) hoverlong hsurrogate
      · rw [if_neg h]
        exact hmalformed
    · exact hmalformed
  rw [if_neg hthree]
  by_cases hfour : 0xF0 ≤ b0.toNat ∧ b0.toNat ≤ 0xF4
  · rw [if_pos hfour]
    split
    · next b1 b2 b3 _ =>
      by_cases h : (within (if b0.toNat = 0xF0 then 0x90 else 0x80) (if b0.toNat = 0xF4 then 0x8F else 0xBF) b1 &&
          within 0x80 0xBF b2 && within 0x80 0xBF b3) = true
      · rw [if_pos h]
        rw [Bool.and_eq_true, Bool.and_eq_true] at h
        obtain ⟨h1, hoverlong, hlast⟩ := within_second (by decide) (by decide) h.1.1
        exact .four hfour h1 (within_iff.mp h.1.2) (within_iff.mp h.2) hoverlong hlast
      · rw [if_neg h]
        exact hmalformed
    · exact hmalformed
  rw [if_neg hfour]
  exact hmalformed

theorem byte_eq {n : Nat} (h : n = b.toNat) : UInt8.ofNat n = b := by
  rw [h, UInt8.ofNat_toNat]

/-- A code point that was decoded is written with the bytes it was read from. -/
theorem encodeRune_decodeRune {rest : Bytes} (h : decodeRune (b :: rest) ≠ (runeError, 1)) :
    encodeRune (decodeRune (b :: rest)).1 = (b :: rest).take (decodeRune (b :: rest)).2 := by
  have hdecodes := decodes_decodeRune b rest
  generalize decodeRune (b :: rest) = decoded at h hdecodes ⊢
  cases hdecodes with
  | one h0 =>
    rw [encodeRune, if_pos h0, UInt8.ofNat_toNat]
    rfl
  | @two _ b1 _ h0 h1 =>
    unfold IsContinuation at h1
    rw [encodeRune, if_neg (by omega), if_pos (by omega), byte_eq (b := b) (by omega), byte_eq (b := b1) (by omega)]
    rfl
  | @three _ b1 b2 _ h0 h1 h2 hoverlong hsurrogate =>
    unfold IsContinuation at h1 h2
    rw [encodeRune, if_neg (by omega), if_neg (by omega), if_neg (by omega), if_pos (by omega),
      byte_eq (b := b) (by omega), byte_eq (b := b1) (by omega), byte_eq (b := b2) (by omega)]
    rfl
  | @four _ b1 b2 b3 _ h0 h1 h2 h3 hoverlong hlast =>
    unfold IsContinuation at h1 h2 h3
    rw [encodeRune, if_neg (by omega), if_neg (by omega), if_neg (by omega), if_neg (by omega),
      byte_eq (b := b) (by omega), byte_eq (b := b1) (by omega), byte_eq (b := b2) (by omega),
      byte_eq (b := b3) (by omega)]
    rfl
  | malformed h0 => exact absurd rfl h

theorem encodeRune_ne_nil (rune : Nat) : encodeRune rune ≠ [] := by
  unfold encodeRune
  repeat' split
  all_goals exact List.cons_ne_nil _ _

theorem isScalar_decodeRune (b : UInt8) (rest : Bytes) : IsScalar (decodeRune (b :: rest)).1 := by
  have hdecodes := decodes_decodeRune b rest
  generalize decodeRune (b :: rest) = decoded at hdecodes ⊢
  unfold IsScalar
  cases hdecodes with
  | one h0 => exact .inl (by omega)
  | two h0 h1 =>
    unfold IsContinuation at h1
    exact .inl (by omega)
  | three h0 h1 h2 hoverlong hsurrogate =>
    unfold IsContinuation at h1 h2
    dsimp only
    omega
  | four h0 h1 h2 h3 hoverlong hlast =>
    unfold IsContinuation at h1 h2 h3
    dsimp only
    omega
  | malformed h0 => exact .inr (by decide)

/-- What was written as a code point is decoded as that one, whatever follows. -/
theorem decodeRune_encodeRune_append {rune : Nat} (h : IsScalar rune) (t : Bytes) :
    decodeRune (encodeRune rune ++ t) = (rune, (encodeRune rune).length) := by
  unfold IsScalar at h
  have hbyte : ∀ n, n < 0x100 → (UInt8.ofNat n).toNat = n := by
    intro n hn
    rw [UInt8.toNat_ofNat', Nat.mod_eq_of_lt hn]
  unfold encodeRune
  split
  · next hone =>
    rw [List.singleton_append, decodeRune_ascii (by rw [hbyte _ (by omega)]; exact hone), hbyte _ (by omega)]
    rfl
  split
  · next hone htwo =>
    rw [List.cons_append, List.cons_append, List.nil_append, decodeRune]
    simp only [within, hbyte _ (show 0xC0 + rune / 64 < 0x100 by omega),
      hbyte _ (show 0x80 + rune % 64 < 0x100 by omega)]
    rw [if_neg (by omega), if_pos (by omega), if_pos (by simp; omega)]
    refine Prod.ext ?_ rfl
    dsimp only
    omega
  split
  · omega
  split
  · next hone htwo hbad hthree =>
    rw [List.cons_append, List.cons_append, List.cons_append, List.nil_append, decodeRune]
    simp only [within, hbyte _ (show 0xE0 + rune / 4096 < 0x100 by omega),
      hbyte _ (show 0x80 + rune / 64 % 64 < 0x100 by omega), hbyte _ (show 0x80 + rune % 64 < 0x100 by omega)]
    rw [if_neg (by omega), if_neg (by omega), if_pos (by omega), if_pos (by
      simp only [Bool.and_eq_true, decide_eq_true_eq]
      split <;> split <;> omega)]
    refine Prod.ext ?_ rfl
    dsimp only
    omega
  · next hone htwo hbad hthree =>
    rw [List.cons_append, List.cons_append, List.cons_append, List.cons_append, List.nil_append, decodeRune]
    simp only [within, hbyte _ (show 0xF0 + rune / 262144 < 0x100 by omega),
      hbyte _ (show 0x80 + rune / 4096 % 64 < 0x100 by omega),
      hbyte _ (show 0x80 + rune / 64 % 64 < 0x100 by omega), hbyte _ (show 0x80 + rune % 64 < 0x100 by omega)]
    rw [if_neg (by omega), if_neg (by omega), if_neg (by omega), if_pos (by omega), if_pos (by
      simp only [Bool.and_eq_true, decide_eq_true_eq]
      split <;> split <;> omega)]
    refine Prod.ext ?_ rfl
    dsimp only
    omega

/-- The text that `encoding/json` hands over for `s`: each byte that belongs to no code point is replaced by U+FFFD.
    `skip` bytes belong to a code point that has been written. -/
def toValidRunes : Nat → GoString → GoString
  | _, [] => []
  | 0, b :: rest =>
    let (rune, size) := decodeRune (b :: rest)
    encodeRune rune ++ toValidRunes (size - 1) rest
  | skip + 1, _ :: rest => toValidRunes skip rest

def toValid (s : GoString) : GoString := toValidRunes 0 s

def validRunes : Nat → GoString → Bool
  | _, [] => true
  | 0, b :: rest =>
    let (rune, size) := decodeRune (b :: rest)
    !(rune = runeError ∧ size = 1) && validRunes (size - 1) rest
  | skip + 1, _ :: rest => validRunes skip rest

/-- `utf8.ValidString`. -/
def validString (s : GoString) : Bool := validRunes 0 s

theorem toValidRunes_drop (skip : Nat) (s : GoString) : toValidRunes skip s = toValid (s.drop skip) := by
  induction s generalizing skip with
  | nil =>
    rw [List.drop_nil, toValid, toValidRunes, toValidRunes]
  | cons b rest ih =>
    cases skip with
    | zero => rfl
    | succ skip =>
      rw [toValidRunes, ih]
      rfl

theorem validRunes_drop (skip : Nat) (s : GoString) : validRunes skip s = validString (s.drop skip) := by
  induction s generalizing skip with
  | nil =>
    rw [List.drop_nil, validString, validRunes, validRunes]
  | cons b rest ih =>
    cases skip with
    | zero => rfl
    | succ skip =>
      rw [validRunes, ih]
      rfl

theorem drop_pred_decodeRune (b : UInt8) (rest : Bytes) :
    rest.drop ((decodeRune (b :: rest)).2 - 1) = (b :: rest).drop (decodeRune (b :: rest)).2 := by
  have hsize := decodeRune_size_pos (List.cons_ne_nil b rest)
  obtain ⟨n, hn⟩ := Nat.exists_eq_add_of_le' hsize
  rw [hn, Nat.add_sub_cancel, List.drop_succ_cons]

@[simp] theorem toValid_nil : toValid [] = [] := rfl

theorem toValid_cons (b : UInt8) (rest : Bytes) :
    toValid (b :: rest) =
      encodeRune (decodeRune (b :: rest)).1 ++ toValid ((b :: rest).drop (decodeRune (b :: rest)).2) := by
  rw [← drop_pred_decodeRune, ← toValidRunes_drop]
  rfl

theorem validString_cons (b : UInt8) (rest : Bytes) :
    validString (b :: rest) = true ↔
      decodeRune (b :: rest) ≠ (runeError, 1) ∧ validString ((b :: rest).drop (decodeRune (b :: rest)).2) = true := by
  rw [← drop_pred_decodeRune, ← validRunes_drop, validString, validRunes, Bool.and_eq_true, Bool.not_eq_true',
    decide_eq_false_iff_not, Ne, Prod.ext_iff]

theorem validString_of_ascii (h : ∀ b ∈ s, b.toNat < 0x80) : validString s = true := by
  induction s with
  | nil => rfl
  | cons b rest ih =>
    rw [List.forall_mem_cons] at h
    rw [validString_cons, decodeRune_ascii h.1]
    refine ⟨fun heq => ?_, ih h.2⟩
    have hrune := congrArg Prod.fst heq
    simp only [runeError] at hrune
    omega

theorem toValid_of_validString (h : validString s = true) : toValid s = s := by
  induction s using rune_induction with
  | nil => rfl
  | rune b rest ih =>
    obtain ⟨hfirst, hrest⟩ := (validString_cons b rest).mp h
    rw [toValid_cons, encodeRune_decodeRune hfirst, ih hrest, List.take_append_drop]

/-- Replacing never shortens a text, and a malformed byte makes it longer. -/
theorem length_le_toValid (s : GoString) :
    s.length ≤ (toValid s).length ∧ (validString s = false → s.length < (toValid s).length) := by
  induction s using rune_induction with
  | nil => exact ⟨Nat.le_refl 0, fun h => absurd h (by decide)⟩
  | rune b rest ih =>
    have hsize := decodeRune_size_le (b :: rest)
    obtain ⟨hle, hlt⟩ := ih
    rw [List.length_drop] at hle hlt
    rw [toValid_cons, List.length_append]
    by_cases hfirst : decodeRune (b :: rest) = (runeError, 1)
    · have hwide : (encodeRune (decodeRune (b :: rest)).1).length = 3 := by
        rw [hfirst]
        rfl
      rw [hwide]
      rw [hfirst] at hle hsize ⊢
      dsimp only at hle hsize ⊢
      constructor
      · omega
      · intro _
        omega
    · rw [encodeRune_decodeRune hfirst, List.length_take, Nat.min_eq_left hsize]
      refine ⟨by omega, fun h => ?_⟩
      have hrest : validString ((b :: rest).drop (decodeRune (b :: rest)).2) = false := by
        rw [← Bool.not_eq_true] at h ⊢
        exact fun hvalid => h ((validString_cons b rest).mpr ⟨hfirst, hvalid⟩)
      have hlonger := hlt hrest
      omega

theorem toValid_eq_self_iff : toValid s = s ↔ validString s = true := by
  refine ⟨fun h => ?_, toValid_of_validString⟩
  by_contra hinvalid
  have hlonger := (length_le_toValid s).2 (eq_false_of_ne_true hinvalid)
  rw [h] at hlonger
  exact Nat.lt_irrefl _ hlonger

/-- What has been replaced is UTF-8. -/
theorem validString_toValid (s : GoString) : validString (toValid s) = true := by
  induction s using rune_induction with
  | nil => rfl
  | rune b rest ih =>
    have hscalar := isScalar_decodeRune b rest
    rw [toValid_cons]
    generalize (decodeRune (b :: rest)).1 = rune at hscalar
    generalize toValid ((b :: rest).drop (decodeRune (b :: rest)).2) = t at ih
    have hdecode := decodeRune_encodeRune_append hscalar t
    obtain ⟨c, more, hcons⟩ := List.exists_cons_of_ne_nil (encodeRune_ne_nil rune)
    have hwell : (rune, (encodeRune rune).length) ≠ (runeError, 1) := by
      rintro heq
      obtain ⟨rfl, hone⟩ := Prod.mk.inj heq
      exact absurd hone (by decide)
    rw [hcons, List.cons_append] at hdecode ⊢
    rw [hcons] at hwell
    rw [validString_cons, hdecode, ← List.cons_append, List.drop_left]
    exact ⟨hwell, ih⟩

end golang.utf8
