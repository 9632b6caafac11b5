import Myngrok.Go.Json
import Mathlib.Algebra.BigOperators.Group.List.Basic
import Mathlib.Data.Nat.Log

namespace golang

/-- How many digits a number has. -/
theorem length_itoa (n : Nat) : (itoa n).length = Nat.log 10 n + 1 := by
  have hdigits : (itoa n).length = (Nat.toDigits 10 n).length := by
    rw [itoa, lit, Nat.repr_eq_ofList_toDigits, String.toList_ofList, List.length_flatMap]
    have hone : ∀ c ∈ Nat.toDigits 10 n, (String.utf8EncodeChar c).length = 1 := by
      intro c hmem
      have hdigit := Nat.isDigit_of_mem_toDigits (by decide) (by decide) hmem
      simp only [Char.isDigit, Bool.and_eq_true, decide_eq_true_eq] at hdigit
      have hascii : c.val ≤ 0x7F := UInt32.le_trans hdigit.2 (by decide)
      rw [String.length_utf8EncodeChar]
      exact if_pos hascii
    rw [List.map_congr_left hone]
    simp
  have hle : ∀ k, 0 < k → ((Nat.toDigits 10 n).length ≤ k ↔ Nat.log 10 n + 1 ≤ k) := by
    intro k hk
    rw [Nat.length_toDigits_le_iff (by decide) hk]
    by_cases hn : n = 0
    · subst hn
      rw [Nat.log_zero_right]
      exact iff_of_true (Nat.pow_pos (by decide)) hk
    · rw [← Nat.log_lt_iff_lt_pow (by decide) hn]
      exact Iff.rfl
  have hpos : 0 < (Nat.toDigits 10 n).length := List.length_pos_of_ne_nil Nat.toDigits_ne_nil
  rw [hdigits]
  exact Nat.le_antisymm ((hle _ (Nat.succ_pos _)).mpr (Nat.le_refl _)) ((hle _ hpos).mp (Nat.le_refl _))

namespace json

/-- How many bytes an ASCII byte takes inside a JSON string. -/
def escapedByteLength (b : UInt8) : Nat :=
  let x := b.toNat
  if x = 0x22 ∨ x = 0x5C ∨ x = 0x08 ∨ x = 0x0C ∨ x = 0x0A ∨ x = 0x0D ∨ x = 0x09 then 2
  else if x < 0x20 ∨ x = 0x3C ∨ x = 0x3E ∨ x = 0x26 then 6
  else 1

/-- How many bytes a text takes inside a JSON string: a byte that is not UTF-8 and the two line separators take six,
    other code points what they have. -/
def escapedLength : Nat → GoString → Nat
  | 0, _ => 0
  | fuel + 1, s =>
    match s with
    | [] => 0
    | b :: rest =>
      if b.toNat < 0x80 then escapedByteLength b + escapedLength fuel rest
      else
        let (rune, size) := utf8.decodeRune s
        if rune = utf8.runeError ∧ size = 1 then 6 + escapedLength fuel rest
        else if rune = 0x2028 ∨ rune = 0x2029 then 6 + escapedLength fuel (s.drop size)
        else size + escapedLength fuel (s.drop size)

def quotedLength (s : GoString) : Nat := escapedLength s.length s + 2

theorem length_escapeByte (b : UInt8) : (escapeByte b).length = escapedByteLength b := by
  unfold escapeByte escapedByteLength
  dsimp only
  generalize b.toNat = x
  repeat' split
  all_goals first | rfl | omega

theorem length_escapeString (fuel : Nat) (s : GoString) : (escapeString fuel s).length = escapedLength fuel s := by
  induction fuel generalizing s with
  | zero => rfl
  | succ fuel ih =>
    cases s with
    | nil => rfl
    | cons b rest =>
      have hsize := utf8.decodeRune_size_le (b :: rest)
      have hliteral : (lit "\\ufffd").length = 6 ∧ (lit "\\u202").length = 5 := ⟨rfl, rfl⟩
      simp only [escapeString, escapedLength]
      split
      · rw [List.length_append, length_escapeByte, ih]
      · split
        · rw [List.length_append, hliteral.1, ih]
        · split
          · rw [List.length_append, List.length_append, hliteral.2, List.length_singleton, ih]
          · rw [List.length_append, List.length_take, Nat.min_eq_left hsize, ih]

theorem length_quote (s : GoString) : (quote s).length = quotedLength s := by
  simp only [quote, quotedLength, List.length_append, List.length_singleton, length_escapeString]
  omega

theorem quotedLength_of_plain {s : GoString} (h : Plain s) : quotedLength s = s.length + 2 := by
  rw [← length_quote, quote_of_plain h, List.length_append, List.length_append, List.length_singleton, Nat.add_comm 1]

/-- How many bytes a number takes: its digits and its sign. -/
def numberLength (value : Int) : Nat := Nat.log 10 value.natAbs + 1 + if value < 0 then 1 else 0

theorem length_writeInt (value : Int) : (writeInt value).length = numberLength value := by
  unfold writeInt numberLength
  split
  · rw [List.length_append, length_itoa, List.length_singleton, Nat.add_comm]
  · rw [length_itoa, Nat.add_zero]

/-- The items of an array with their commas and one bracket. -/
theorem length_encodeItems {items : List Value} (h : items ≠ []) :
    (encodeItems items).length + 1 = (items.map fun item => (encode item).length + 1).sum := by
  induction items with
  | nil => exact absurd rfl h
  | cons item rest ih =>
    cases rest with
    | nil => simp [encodeItems]
    | cons next rest =>
      have hrest := ih (List.cons_ne_nil _ _)
      simp only [encodeItems, List.length_append, List.length_singleton, List.map_cons, List.sum_cons] at hrest ⊢
      omega

theorem length_encodeMembers {members : List (GoString × Value)} (h : members ≠ []) :
    (encodeMembers members).length + 1 =
      (members.map fun member => quotedLength member.1 + (encode member.2).length + 2).sum := by
  induction members with
  | nil => exact absurd rfl h
  | cons member rest ih =>
    cases rest with
    | nil =>
      simp only [encodeMembers, List.length_append, List.length_singleton, length_quote, List.map_cons, List.map_nil,
        List.sum_cons, List.sum_nil]
      omega
    | cons next rest =>
      have hrest := ih (List.cons_ne_nil _ _)
      simp only [encodeMembers, List.length_append, List.length_singleton, length_quote, List.map_cons,
        List.sum_cons] at hrest ⊢
      omega

end json

end golang
