import Myngrok.Go.Text

namespace golang

namespace unicode

/-- The case mapping of Unicode, as far as it matters here: ASCII is mapped as usual, and what is not ASCII becomes
    ASCII only where it becomes a letter (U+212A is a `k`). -/
structure CaseTable where
  toLower : Nat → Nat
  ascii : ∀ rune < 0x80, toLower rune = if 0x41 ≤ rune ∧ rune ≤ 0x5A then rune + 0x20 else rune
  letter : ∀ rune, 0x80 ≤ rune → toLower rune < 0x80 → 0x61 ≤ toLower rune ∧ toLower rune ≤ 0x7A

/-- The mapping that leaves what is not ASCII. -/
def CaseTable.asciiOnly : CaseTable where
  toLower rune := if 0x41 ≤ rune ∧ rune ≤ 0x5A then rune + 0x20 else rune
  ascii _ _ := rfl
  letter := by
    intro rune hrune
    split
    · omega
    · omega

end unicode

namespace utf8

/-- `utf8.AppendRune` to an empty slice. What is no code point is written as U+FFFD. -/
def encodeRune (rune : Nat) : Bytes :=
  if rune < 0x80 then [UInt8.ofNat rune]
  else if rune < 0x800 then [UInt8.ofNat (0xC0 + rune / 64), UInt8.ofNat (0x80 + rune % 64)]
  else if (0xD800 ≤ rune ∧ rune ≤ 0xDFFF) ∨ 0x10FFFF < rune then [0xEF, 0xBF, 0xBD]
  else if rune < 0x10000 then
    [UInt8.ofNat (0xE0 + rune / 4096), UInt8.ofNat (0x80 + rune / 64 % 64), UInt8.ofNat (0x80 + rune % 64)]
  else
    [UInt8.ofNat (0xF0 + rune / 262144), UInt8.ofNat (0x80 + rune / 4096 % 64), UInt8.ofNat (0x80 + rune / 64 % 64),
      UInt8.ofNat (0x80 + rune % 64)]

variable {rune : Nat} {b : UInt8}

theorem encodeRune_ascii (h : rune < 0x80) : encodeRune rune = [UInt8.ofNat rune] := if_pos h

/-- The bytes of a longer sequence are none of ASCII. -/
theorem encodeRune_wide (h : 0x80 ≤ rune) : ∀ b ∈ encodeRune rune, 0x80 ≤ b.toNat := by
  have hbyte : ∀ n, 0x80 ≤ n → n < 0x100 → 0x80 ≤ (UInt8.ofNat n).toNat := by
    intro n hlow hhigh
    rw [UInt8.toNat_ofNat', Nat.mod_eq_of_lt hhigh]
    exact hlow
  unfold encodeRune
  rw [if_neg (Nat.not_lt.mpr h)]
  repeat' split
  all_goals simp only [List.forall_mem_cons, List.not_mem_nil, false_imp_iff, implies_true, and_true]
  · exact ⟨hbyte _ (by omega) (by omega), hbyte _ (by omega) (by omega)⟩
  · decide
  · exact ⟨hbyte _ (by omega) (by omega), hbyte _ (by omega) (by omega), hbyte _ (by omega) (by omega)⟩
  · exact ⟨hbyte _ (by omega) (by omega), hbyte _ (by omega) (by omega), hbyte _ (by omega) (by omega),
      hbyte _ (by omega) (by omega)⟩

theorem decodeRune_ascii (h : b.toNat < 0x80) (rest : Bytes) : decodeRune (b :: rest) = (b.toNat, 1) :=
  if_pos h

theorem within_ascii {lo hi : Nat} (hb : b.toNat < 0x80) (hlo : 0x80 ≤ lo) : within lo hi b = false := by
  rw [within, Bool.and_eq_false_iff]
  exact .inl (decide_eq_false (by omega))

/-- An ASCII byte ends whatever stands before it. -/
theorem decodeRune_append {s : Bytes} (hs : s ≠ []) (hb : b.toNat < 0x80) (t : Bytes) :
    decodeRune (s ++ b :: t) = decodeRune s ∧ (decodeRune s).2 ≤ s.length := by
  have hcontinuation : ∀ hi, within 0x80 hi b = false := fun hi => within_ascii hb (Nat.le_refl _)
  have hlow : ∀ (c : Prop) [Decidable c] (lo hi : Nat), 0x80 ≤ lo → within (if c then lo else 0x80) hi b = false := by
    intro c _ lo hi hlo
    apply within_ascii hb
    split
    · exact hlo
    · exact Nat.le_refl _
  have hsize : ∀ (c : Prop) [Decidable c] (rune size length : Nat), size ≤ length → 1 ≤ length →
      (if c then (rune, size) else (runeError, 1)).2 ≤ length := by
    intro c _ rune size length hlength hone
    split
    · exact hlength
    · exact hone
  cases s with
  | nil => exact absurd rfl hs
  | cons b0 rest =>
    rw [List.cons_append]
    unfold decodeRune
    dsimp only
    by_cases hascii : b0.toNat < 0x80
    · rw [if_pos hascii, if_pos hascii]
      exact ⟨rfl, Nat.le_add_left 1 _⟩
    rw [if_neg hascii, if_neg hascii]
    by_cases htwo : 0xC2 ≤ b0.toNat ∧ b0.toNat ≤ 0xDF
    · rw [if_pos htwo, if_pos htwo]
      rcases rest with _ | ⟨b1, rest⟩
      · simp [hcontinuation]
      · exact ⟨rfl, hsize _ _ _ _ (by simp) (by simp)⟩
    rw [if_neg htwo, if_neg htwo]
    by_cases hthree : 0xE0 ≤ b0.toNat ∧ b0.toNat ≤ 0xEF
    · rw [if_pos hthree, if_pos hthree]
      rcases rest with _ | ⟨b1, _ | ⟨b2, rest⟩⟩
      · cases t with
        | nil => simp
        | cons c t => simp [hlow]
      · simp [hcontinuation]
      · exact ⟨rfl, hsize _ _ _ _ (by simp) (by simp)⟩
    rw [if_neg hthree, if_neg hthree]
    by_cases hfour : 0xF0 ≤ b0.toNat ∧ b0.toNat ≤ 0xF4
    · rw [if_pos hfour, if_pos hfour]
      rcases rest with _ | ⟨b1, _ | ⟨b2, _ | ⟨b3, rest⟩⟩⟩
      · rcases t with _ | ⟨c, _ | ⟨d, t⟩⟩
        · simp
        · simp
        · simp [hlow]
      · cases t with
        | nil => simp
        | cons c t => simp [hcontinuation]
      · simp [hcontinuation]
      · exact ⟨rfl, hsize _ _ _ _ (by simp) (by simp)⟩
    rw [if_neg hfour, if_neg hfour]
    exact ⟨rfl, Nat.le_add_left 1 _⟩

/-- Only an ASCII byte is decoded as ASCII. -/
theorem decodeRune_wide (h : 0x80 ≤ b.toNat) (rest : Bytes) : 0x80 ≤ (decodeRune (b :: rest)).1 := by
  have hrune : ∀ (c : Prop) [Decidable c] (rune size : Nat), (c → 0x80 ≤ rune) →
      0x80 ≤ (if c then (rune, size) else (runeError, 1)).1 := by
    intro c _ rune size hwide
    split
    · next hc => exact hwide hc
    · decide
  unfold decodeRune
  dsimp only
  rw [if_neg (Nat.not_lt.mpr h)]
  split
  · split
    · apply hrune
      omega
    · decide
  · split
    · split
      · apply hrune
        simp only [within, Bool.and_eq_true, decide_eq_true_eq]
        split <;> omega
      · decide
    · split
      · split
        · apply hrune
          simp only [within, Bool.and_eq_true, decide_eq_true_eq]
          split <;> omega
        · decide
      · decide

end utf8

namespace strings

open unicode utf8

/-- The mapping of a text rune by rune; `skip` bytes belong to a rune that has been written. A byte that starts no rune
    is replaced by U+FFFD. -/
def lowerRunes (table : CaseTable) : Nat → GoString → GoString
  | _, [] => []
  | 0, b :: rest =>
    let (rune, size) := decodeRune (b :: rest)
    encodeRune (table.toLower rune) ++ lowerRunes table (size - 1) rest
  | skip + 1, _ :: rest => lowerRunes table skip rest

/-- `strings.ToLower`. -/
def toLowerIn (table : CaseTable) (s : GoString) : GoString := lowerRunes table 0 s

variable {table : CaseTable} {s t stop : GoString} {b mark : UInt8} {skip : Nat}

theorem lowerRunes_append (hskip : skip ≤ s.length) (hb : b.toNat < 0x80) :
    lowerRunes table skip (s ++ b :: t) = lowerRunes table skip s ++ lowerRunes table 0 (b :: t) := by
  induction s generalizing skip with
  | nil =>
    obtain rfl := Nat.le_zero.mp hskip
    rfl
  | cons c rest ih =>
    cases skip with
    | zero =>
      obtain ⟨hdecode, hsize⟩ := decodeRune_append (List.cons_ne_nil c rest) hb t
      rw [List.cons_append] at hdecode ⊢
      rw [lowerRunes, hdecode, lowerRunes]
      dsimp only
      rw [ih (Nat.sub_le_of_le_add hsize), List.append_assoc]
    | succ skip =>
      rw [List.cons_append, lowerRunes, lowerRunes]
      exact ih (Nat.le_of_succ_le_succ hskip)

theorem lower_ascii (table : CaseTable) (hb : b.toNat < 0x80) :
    encodeRune (table.toLower b.toNat) = [if within 0x41 0x5A b then b + 0x20 else b] := by
  rw [table.ascii _ hb, encodeRune_ascii (by split <;> omega)]
  simp only [within, Bool.and_eq_true, decide_eq_true_eq]
  congr 1
  split
  · apply UInt8.toNat_inj.mp
    rw [UInt8.toNat_ofNat', UInt8.toNat_add]
    rfl
  · exact UInt8.ofNat_toNat

/-- ASCII bytes are mapped on their own. -/
theorem toLowerIn_append (table : CaseTable) (s : GoString) (hb : b.toNat < 0x80) (t : GoString) :
    toLowerIn table (s ++ b :: t) =
      toLowerIn table s ++ (if within 0x41 0x5A b then b + 0x20 else b) :: toLowerIn table t := by
  rw [toLowerIn, lowerRunes_append (Nat.zero_le _) hb, toLowerIn, lowerRunes, decodeRune_ascii hb]
  dsimp only
  rw [lower_ascii table hb]
  rfl

/-- On ASCII text all tables agree. -/
theorem toLowerIn_ascii (table : CaseTable) (hs : ∀ b ∈ s, b.toNat < 0x80) : toLowerIn table s = toLower s := by
  induction s with
  | nil => rfl
  | cons b rest ih =>
    have happend := toLowerIn_append table [] (hs b List.mem_cons_self) rest
    rw [List.nil_append] at happend
    rw [happend, ih fun c hc => hs c (List.mem_cons_of_mem _ hc)]
    rfl

/-- A sign that is no letter is in the result only if it was there before. -/
theorem mem_of_mem_toLowerIn (hmark : mark.toNat < 0x80) (hsmall : ¬(0x61 ≤ mark.toNat ∧ mark.toNat ≤ 0x7A))
    (hmem : mark ∈ lowerRunes table skip s) : mark ∈ s := by
  induction s generalizing skip with
  | nil =>
    rw [lowerRunes] at hmem
    exact hmem
  | cons b rest ih =>
    cases skip with
    | succ skip =>
      rw [lowerRunes] at hmem
      exact List.mem_cons_of_mem _ (ih hmem)
    | zero =>
      rw [lowerRunes] at hmem
      dsimp only at hmem
      rcases List.mem_append.mp hmem with hfirst | hrest
      · by_cases hb : b.toNat < 0x80
        · rw [decodeRune_ascii hb, lower_ascii table hb, List.mem_singleton] at hfirst
          split at hfirst
          · next hupper =>
            exfalso
            simp only [within, Bool.and_eq_true, decide_eq_true_eq] at hupper
            rw [hfirst, UInt8.toNat_add, show UInt8.toNat 0x20 = 0x20 from rfl] at hsmall
            omega
          · rw [hfirst]
            exact List.mem_cons_self
        · -- What is not ASCII is written as a letter, or not in ASCII either.
          exfalso
          have hwide := decodeRune_wide (Nat.not_lt.mp hb) rest
          by_cases hlow : table.toLower (decodeRune (b :: rest)).1 < 0x80
          · have hletter := table.letter _ hwide hlow
            rw [encodeRune_ascii hlow, List.mem_singleton] at hfirst
            rw [hfirst, UInt8.toNat_ofNat', Nat.mod_eq_of_lt (by omega)] at hsmall
            exact hsmall hletter
          · exact absurd hmark (Nat.not_lt.mpr (encodeRune_wide (Nat.not_lt.mp hlow) mark hfirst))
      · exact List.mem_cons_of_mem _ (ih hrest)

/-- A text without white space, at whatever byte one starts to read. -/
def spaceFree (s : GoString) : Bool :=
  (List.range s.length).all fun i => !isSpace (decodeRune (s.drop i)).1

theorem spaceFree_drop (h : spaceFree s = true) {i : Nat} (hi : i < s.length) :
    isSpace (decodeRune (s.drop i)).1 = false := by
  have hall := List.all_eq_true.mp h i (List.mem_range.mpr hi)
  rwa [Bool.not_eq_true'] at hall

/-- Texts with no white space at their ends are left. -/
theorem trimSpace_eq_self (hfirst : s ≠ [] → isSpace (decodeRune s).1 = false)
    (hlast : s ≠ [] → isSpace (decodeLastRune s).1 = false) : trimSpace s = s := by
  cases s with
  | nil => rfl
  | cons b rest =>
    have hleft : trimLeftSpace (b :: rest).length (b :: rest) = b :: rest := by
      unfold trimLeftSpace
      dsimp only [List.length_cons]
      rw [hfirst (List.cons_ne_nil b rest), if_neg Bool.false_ne_true]
    rw [trimSpace, hleft]
    unfold trimRightSpace
    dsimp only [List.length_cons]
    rw [hlast (List.cons_ne_nil b rest), if_neg Bool.false_ne_true]

theorem decodeLastRune_concat_ascii (s : GoString) (hb : b.toNat < 0x80) : decodeLastRune (s ++ [b]) = (b.toNat, 1) := by
  rw [decodeLastRune, List.reverse_append, List.reverse_singleton, List.singleton_append]
  exact if_pos hb

theorem trimSpace_of_spaceFree (h : spaceFree s = true) : trimSpace s = s := by
  apply trimSpace_eq_self
  · intro hs
    exact spaceFree_drop h (List.length_pos_iff.mpr hs)
  · intro hs
    have hlength := List.length_pos_iff.mpr hs
    have hat : ∀ size, 1 ≤ size → isSpace (decodeRune (s.drop (s.length - size))).1 = false :=
      fun size hsize => spaceFree_drop h (by omega)
    obtain ⟨before, last, rfl⟩ : ∃ before last, s = before ++ [last] :=
      ⟨s.dropLast, s.getLast hs, (List.dropLast_append_getLast hs).symm⟩
    by_cases hascii : last.toNat < 0x80
    · have hfirst := hat 1 (Nat.le_refl 1)
      rw [List.length_append, List.length_singleton, Nat.add_sub_cancel, List.drop_left, decodeRune_ascii hascii] at hfirst
      rw [decodeLastRune_concat_ascii before hascii]
      exact hfirst
    · rw [decodeLastRune, List.reverse_append, List.reverse_singleton, List.singleton_append]
      dsimp only
      rw [if_neg hascii]
      split
      · exact hat _ (Nat.le_add_right 1 _)
      · decide

/-- ASCII without white space. -/
theorem trimSpace_of_range (h : ∀ b ∈ s, 0x2D ≤ b.toNat ∧ b.toNat ≤ 0x7A) : trimSpace s = s := by
  have hspace : ∀ rune ≤ 0x7A, 0x2D ≤ rune → isSpace rune = false := by decide
  refine trimSpace_of_spaceFree (List.all_eq_true.mpr fun i hi => ?_)
  rw [List.mem_range] at hi
  obtain ⟨hlow, hhigh⟩ := h s[i] (List.getElem_mem hi)
  rw [List.drop_eq_getElem_cons hi, decodeRune_ascii (by omega), hspace _ hhigh hlow]
  rfl

theorem trimLeftSpace_suffix (fuel : Nat) (s : GoString) : trimLeftSpace fuel s <:+ s := by
  induction fuel generalizing s with
  | zero => exact List.suffix_refl s
  | succ fuel ih =>
    unfold trimLeftSpace
    split
    · exact List.suffix_refl _
    · dsimp only
      split
      · exact (ih _).trans (List.drop_suffix _ _)
      · exact List.suffix_refl _

theorem trimRightSpace_initial (fuel : Nat) (s : GoString) : trimRightSpace fuel s <+: s := by
  induction fuel generalizing s with
  | zero => exact List.prefix_refl s
  | succ fuel ih =>
    unfold trimRightSpace
    split
    · exact List.prefix_refl _
    · dsimp only
      split
      · exact (ih _).trans (List.take_prefix _ _)
      · exact List.prefix_refl _

theorem mem_of_mem_trimSpace (h : b ∈ trimSpace s) : b ∈ s :=
  (trimLeftSpace_suffix _ _).mem ((trimRightSpace_initial _ _).mem h)

/-- A text that has been trimmed does not end in white space. -/
theorem not_space_of_trimSpace (hb : b.toNat < 0x80) (h : trimSpace (s ++ [b]) = s ++ [b]) : isSpace b.toNat = false := by
  have hleft : trimLeftSpace (s ++ [b]).length (s ++ [b]) = s ++ [b] := by
    apply (trimLeftSpace_suffix _ _).eq_of_length_le
    have hlength := (trimRightSpace_initial (trimLeftSpace (s ++ [b]).length (s ++ [b])).length
      (trimLeftSpace (s ++ [b]).length (s ++ [b]))).length_le
    rw [trimSpace] at h
    rw [h] at hlength
    exact hlength
  rw [trimSpace, hleft] at h
  by_contra hspace
  have hshort : trimRightSpace (s ++ [b]).length (s ++ [b]) = trimRightSpace s.length s := by
    rw [List.length_append, List.length_singleton, trimRightSpace]
    · rw [decodeLastRune_concat_ascii s hb]
      dsimp only
      rw [if_pos (eq_true_of_ne_false hspace), List.length_append, List.length_singleton, Nat.add_sub_cancel,
        List.take_left]
    · exact fun hnil => List.cons_ne_nil _ _ (List.append_eq_nil_iff.mp hnil).2
  have hlength := (trimRightSpace_initial s.length s).length_le
  rw [← hshort, h, List.length_append, List.length_singleton] at hlength
  omega

theorem mem_of_mem_trimSuffix (h : b ∈ trimSuffix s stop) : b ∈ s := by
  rw [trimSuffix] at h
  split at h
  · exact List.mem_of_mem_take h
  · exact h

theorem hasSuffix_append (s stop : GoString) : hasSuffix (s ++ stop) stop = true :=
  List.isSuffixOf_iff_suffix.mpr (List.suffix_append s stop)

theorem trimSuffix_append (s stop : GoString) : trimSuffix (s ++ stop) stop = s := by
  rw [trimSuffix, if_pos (hasSuffix_append s stop), List.length_append, Nat.add_sub_cancel, List.take_left]

theorem trimSuffix_of_not_suffix (h : ∀ start, s ≠ start ++ stop) : trimSuffix s stop = s := by
  rw [trimSuffix, if_neg]
  intro hsuffix
  obtain ⟨start, hstart⟩ := List.isSuffixOf_iff_suffix.mp hsuffix
  exact h start hstart.symm

theorem trimSuffix_concat_ne (s : GoString) {c : UInt8} (h : b ≠ c) : trimSuffix (s ++ [b]) [c] = s ++ [b] := by
  apply trimSuffix_of_not_suffix
  intro start hstart
  have hlast := (List.append_inj' hstart rfl).2
  exact h (List.cons.inj hlast).1

/-- A dot at the end belongs to the last part. -/
theorem trimSuffix_append_singleton (s : GoString) (ht : t ≠ []) (c : UInt8) :
    trimSuffix (s ++ t) [c] = s ++ trimSuffix t [c] := by
  obtain ⟨before, last, rfl⟩ : ∃ before last, t = before ++ [last] :=
    ⟨t.dropLast, t.getLast ht, (List.dropLast_append_getLast ht).symm⟩
  rw [← List.append_assoc]
  by_cases hlast : last = c
  · rw [hlast, trimSuffix_append, trimSuffix_append]
  · rw [trimSuffix_concat_ne _ hlast, trimSuffix_concat_ne _ hlast, List.append_assoc]

end strings

namespace net

theorem splitHostPort_of_notMem {s : GoString} (h : 0x3A ∉ s) : splitHostPort s = none := by
  have hlast : strings.lastIndexByte s 0x3A = none := by
    rw [strings.lastIndexByte, Option.map_eq_none_iff, List.findIdx?_eq_none_iff]
    intro b hb
    exact decide_eq_false fun heq => h (heq ▸ List.mem_reverse.mp hb)
  rw [splitHostPort, hlast]

/-- A host and a port. -/
theorem splitHostPort_append {host port : GoString} (hhost : ∀ b ∈ host, b ≠ 0x3A ∧ b ≠ 0x5B ∧ b ≠ 0x5D)
    (hport : ∀ b ∈ port, b ≠ 0x3A ∧ b ≠ 0x5B ∧ b ≠ 0x5D) : splitHostPort (host ++ 0x3A :: port) = some (host, port) := by
  have hlast : strings.lastIndexByte (host ++ 0x3A :: port) 0x3A = some host.length := by
    have hnone : port.reverse.findIdx? (· = 0x3A) = none := by
      rw [List.findIdx?_eq_none_iff]
      intro b hb
      exact decide_eq_false (hport b (List.mem_reverse.mp hb)).1
    rw [strings.lastIndexByte, List.reverse_append, List.reverse_cons, List.append_assoc, List.findIdx?_append, hnone]
    simp [List.findIdx?_cons]
  have hbrackets : 0x5B ∉ host ++ 0x3A :: port ∧ 0x5D ∉ host ++ 0x3A :: port := by
    simp only [List.mem_append, List.mem_cons, not_or]
    exact ⟨⟨fun h => (hhost _ h).2.1 rfl, by decide, fun h => (hport _ h).2.1 rfl⟩,
      fun h => (hhost _ h).2.2 rfl, by decide, fun h => (hport _ h).2.2 rfl⟩
  have hhead : (host ++ 0x3A :: port).head? ≠ some 0x5B := fun h => hbrackets.1 (List.mem_of_mem_head? h)
  have hcolon : 0x3A ∉ host := fun h => (hhost _ h).1 rfl
  rw [splitHostPort, hlast]
  dsimp only
  rw [if_neg hhead, List.take_left, if_neg (by tauto), List.drop_append, List.drop_of_length_le (Nat.le_add_right _ 1)]
  simp

end net

end golang
