import Myngrok.Go.Utf8

open golang

namespace sql

/-- The number of characters of a text in UTF-8, by the bytes that begin one. -/
def characters (text : GoString) : Nat := text.countP fun b => !utf8.within 0x80 0xBF b

/-- The error about a value that is no text, up to its bytes. -/
def invalidText : Error := lit "ERROR: invalid byte sequence for encoding \"UTF8\""

/-- The error about a value that has too many characters, up to their number. -/
def valueTooLong : Error := lit "ERROR: value too long for type character varying"

/-- What a column of the type `VARCHAR(n)` keeps of a value. NUL is no character of a text, and of the characters that
    are too many only blanks are cut off. -/
def varchar (n : Nat) (value : GoString) : Except Error GoString :=
  let kept := value.length - (characters value - n)
  if 0 ∈ value ∨ ¬utf8.validString value then .error invalidText
  else if (value.drop kept).all (· = 0x20) then .ok (value.take kept)
  else .error valueTooLong

/-- A text that is short enough is kept as it is. -/
theorem varchar_of_le {n : Nat} {value : GoString} (hnul : 0 ∉ value) (hvalid : utf8.validString value = true)
    (hle : characters value ≤ n) : varchar n value = .ok value := by
  have hkept : value.length - (characters value - n) = value.length := by omega
  rw [varchar, if_neg (not_or.mpr ⟨hnul, not_not.mpr hvalid⟩), hkept, List.drop_length, List.take_length]
  rfl

example : (varchar 2 (lit "a  ")).toOption = some (lit "a ") ∧ (varchar 2 (lit "abc")).toOption = none := by decide

end sql
