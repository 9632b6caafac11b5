import Myngrok.Go.Text

namespace golang

namespace strings

/-- `strings.Join(elems, separator)` for a separator of one byte. -/
def joinByte (separator : UInt8) : List GoString → GoString
  | [] => []
  | [last] => last
  | first :: others => first ++ separator :: joinByte separator others

theorem joinByte_cons (separator : UInt8) (first : GoString) {others : List GoString} (hothers : others ≠ []) :
    joinByte separator (first :: others) = first ++ separator :: joinByte separator others := by
  cases others with
  | nil => exact absurd rfl hothers
  | cons second rest => rfl

/-- Segments to which others are added keep their text in front. -/
theorem prefix_joinByte (separator : UInt8) (segments others : List GoString) :
    joinByte separator segments <+: joinByte separator (segments ++ others) := by
  induction segments with
  | nil => exact List.nil_prefix
  | cons first rest ih =>
    cases rest with
    | nil =>
      cases others with
      | nil => exact List.prefix_rfl
      | cons second more => exact List.prefix_append first _
    | cons second more =>
      have hmore : second :: more ++ others ≠ [] := List.cons_ne_nil _ _
      rw [List.cons_append, joinByte_cons separator first (List.cons_ne_nil _ _),
        joinByte_cons separator first hmore]
      exact (List.prefix_append_right_inj first).mpr (List.cons_prefix_cons.mpr ⟨rfl, ih⟩)

variable {separator : UInt8} {s : GoString}

/-- A text without the separator is a single segment. -/
theorem eq_singleton_of_joinByte {segments : List GoString} (hjoin : joinByte separator segments = s)
    (hs : separator ∉ s) (hsegments : segments ≠ []) : segments = [s] := by
  cases segments with
  | nil => exact absurd rfl hsegments
  | cons first others =>
    cases others with
    | nil => exact congrArg (fun text => [text]) hjoin
    | cons second rest =>
      refine absurd ?_ hs
      rw [← hjoin, joinByte_cons separator first (List.cons_ne_nil _ _)]
      exact List.mem_append_right first List.mem_cons_self

theorem splitByte_ne_nil (separator : UInt8) (s : GoString) : splitByte separator s ≠ [] := by
  cases s with
  | nil => exact List.cons_ne_nil _ _
  | cons b rest =>
    rw [splitByte]
    split
    · exact List.cons_ne_nil _ _
    · split
      · exact List.cons_ne_nil _ _
      · exact List.cons_ne_nil _ _

theorem splitByte_separator (separator : UInt8) (s : GoString) :
    splitByte separator (separator :: s) = [] :: splitByte separator s := by
  rw [splitByte]
  split
  · next hnil => exact absurd hnil (splitByte_ne_nil separator s)
  · next hcons => rw [if_pos rfl, hcons]

theorem splitByte_append (separator : UInt8) (s : GoString) :
    splitByte separator (s ++ [separator]) = splitByte separator s ++ [[]] := by
  induction s with
  | nil => exact splitByte_separator separator []
  | cons b rest ih =>
    rw [List.cons_append, splitByte, splitByte, ih]
    cases hrest : splitByte separator rest with
    | nil => exact absurd hrest (splitByte_ne_nil separator rest)
    | cons first others =>
      dsimp only [List.cons_append]
      split
      · rfl
      · rfl

/-- Joining what a split yields gives the text back. -/
theorem joinByte_splitByte (separator : UInt8) (s : GoString) : joinByte separator (splitByte separator s) = s := by
  induction s with
  | nil => rfl
  | cons b rest ih =>
    rw [splitByte]
    split
    · next hnil => exact absurd hnil (splitByte_ne_nil separator rest)
    · next first others hcons =>
      rw [hcons] at ih
      split
      · next hb =>
        rw [joinByte_cons separator [] (List.cons_ne_nil _ _), ih, hb]
        rfl
      · cases others with
        | nil => exact congrArg (b :: ·) ih
        | cons second more => exact congrArg (b :: ·) ih

theorem splitByte_of_notMem (h : separator ∉ s) : splitByte separator s = [s] :=
  eq_singleton_of_joinByte (joinByte_splitByte separator s) h (splitByte_ne_nil separator s)

/-- A text up to the first separator is the first part. -/
theorem splitByte_append_cons (h : separator ∉ s) (t : GoString) :
    splitByte separator (s ++ separator :: t) = s :: splitByte separator t := by
  induction s with
  | nil => exact splitByte_separator separator t
  | cons b rest ih =>
    obtain ⟨hb, hrest⟩ := not_or.mp (mt List.mem_cons.mpr h)
    rw [List.cons_append, splitByte, ih hrest]
    exact if_neg (Ne.symm hb)

theorem notMem_of_mem_splitByte {part : GoString} (h : part ∈ splitByte separator s) : separator ∉ part := by
  induction s generalizing part with
  | nil =>
    rw [splitByte, List.mem_singleton] at h
    rw [h]
    exact List.not_mem_nil
  | cons b rest ih =>
    rw [splitByte] at h
    split at h
    · next hnil => exact absurd hnil (splitByte_ne_nil separator rest)
    · next first others hcons =>
      rw [hcons] at ih
      split at h
      · rcases List.mem_cons.mp h with rfl | hmem
        · exact List.not_mem_nil
        · exact ih hmem
      · next hb =>
        rcases List.mem_cons.mp h with rfl | hmem
        · intro hmem
          rcases List.mem_cons.mp hmem with heq | hfirst
          · exact hb heq.symm
          · exact ih List.mem_cons_self hfirst
        · exact ih (List.mem_cons_of_mem first hmem)

/-- The last separator of a text tells its parts. -/
theorem append_separator_inj {x y t : GoString} (hs : separator ∉ s) (ht : separator ∉ t)
    (h : x ++ separator :: s = y ++ separator :: t) : x = y ∧ s = t := by
  rcases List.append_eq_append_iff.mp h with ⟨more, hy, hrest⟩ | ⟨more, hx, hrest⟩
  · cases more with
    | nil =>
      rw [List.append_nil] at hy
      exact ⟨hy.symm, (List.cons.inj hrest).2⟩
    | cons b more =>
      refine absurd ?_ hs
      rw [(List.cons.inj hrest).2]
      exact List.mem_append_right more List.mem_cons_self
  · cases more with
    | nil =>
      rw [List.append_nil] at hx
      exact ⟨hx, (List.cons.inj hrest).2.symm⟩
    | cons b more =>
      refine absurd ?_ ht
      rw [(List.cons.inj hrest).2]
      exact List.mem_append_right more List.mem_cons_self

end strings

end golang
