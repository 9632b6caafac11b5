import Myngrok.Streams.Demux

namespace streams

variable {Id Head Part State : Type} [DecidableEq Id]

/-- A stream is open in one way only. -/
theorem Open.unique {items : List (Item Id Head Part)} {id : Id} {head head' : Head} {parts parts' : List Part}
    (h : Open items id head parts) (h' : Open items id head' parts') : head = head' ∧ parts = parts' := by
  induction items using List.reverseRecOn generalizing parts parts' with
  | nil => exact absurd h not_open_nil
  | append_singleton items item ih =>
    obtain ⟨rfl, rfl⟩ | ⟨hcut, earlier, hopen, rfl⟩ := open_concat.mp h
    · obtain ⟨hitem, rfl⟩ | ⟨hcut, _⟩ := open_concat.mp h'
      · cases hitem
        exact ⟨rfl, rfl⟩
      · exact absurd rfl hcut
    · obtain ⟨rfl, _⟩ | ⟨_, earlier', hopen', rfl⟩ := open_concat.mp h'
      · exact absurd rfl hcut
      · obtain ⟨rfl, rfl⟩ := ih hopen hopen'
        exact ⟨rfl, rfl⟩

/-- The table of a receiver that keeps, for every open stream and for no other, the value that `state` makes of its
    start and the parts it got. -/
def Tracks (state : Head → List Part → State) (items : List (Item Id Head Part)) (lookup : Id → Option State) : Prop :=
  ∀ id value, lookup id = some value ↔ ∃ head parts, Open items id head parts ∧ value = state head parts

variable {state : Head → List Part → State} {items : List (Item Id Head Part)} {lookup lookup' : Id → Option State}
  {id : Id}

theorem tracks_nil : Tracks state ([] : List (Item Id Head Part)) fun _ => none := by
  intro id value
  constructor
  · intro h
    cases h
  · rintro ⟨head, parts, hopen, _⟩
    exact absurd hopen not_open_nil

section

variable (h : Tracks state items lookup)

include h

/-- A message about one stream leaves the others alone. -/
theorem Tracks.of_other {item : Item Id Head Part}
    (hother : ∀ query, query ≠ id → ¬ item.Cuts query ∧ item.part query = none)
    (hlookup : ∀ query, query ≠ id → lookup' query = lookup query)
    (hown : ∀ value, lookup' id = some value ↔ ∃ head parts, Open (items ++ [item]) id head parts ∧
      value = state head parts) : Tracks state (items ++ [item]) lookup' := by
  intro query value
  by_cases hquery : query = id
  · subst hquery
    exact hown value
  · obtain ⟨hcut, hpart⟩ := hother query hquery
    simp only [hlookup query hquery, h query value, open_concat_other hcut hpart]

theorem Tracks.start {head : Head}
    (hlookup : ∀ query, lookup' query = if query = id then some (state head []) else lookup query) :
    Tracks state (items ++ [.start id head]) lookup' := by
  refine h.of_other (fun query hne => ⟨fun heq => hne heq.symm, rfl⟩) (fun query hne => by rw [hlookup, if_neg hne]) ?_
  intro value
  rw [hlookup, if_pos rfl]
  constructor
  · intro hvalue
    cases hvalue
    exact ⟨head, [], open_concat.mpr (.inl ⟨rfl, rfl⟩), rfl⟩
  · rintro ⟨head', parts, hopen, rfl⟩
    obtain ⟨hitem, rfl⟩ | ⟨hcut, _⟩ := open_concat.mp hopen
    · cases hitem
      rfl
    · exact absurd rfl hcut

theorem Tracks.chunk {part : Part} {value value' : State} (hold : lookup id = some value)
    (hnext : ∀ head parts, value = state head parts → value' = state head (parts ++ [part]))
    (hlookup : ∀ query, lookup' query = if query = id then some value' else lookup query) :
    Tracks state (items ++ [.chunk id part]) lookup' := by
  obtain ⟨head, parts, hopen, hvalue⟩ := (h id value).mp hold
  have hpart : (Item.chunk id part : Item Id Head Part).part id = some part := if_pos rfl
  have hopen' : Open (items ++ [.chunk id part]) id head (parts ++ [part]) :=
    open_concat.mpr (.inr ⟨fun hcut => hcut, parts, hopen, by rw [hpart]; rfl⟩)
  refine h.of_other (fun query hne => ⟨fun hcut => hcut, if_neg (Ne.symm hne)⟩)
    (fun query hne => by rw [hlookup, if_neg hne]) ?_
  intro other
  rw [hlookup, if_pos rfl, hnext head parts hvalue]
  constructor
  · intro hother
    cases hother
    exact ⟨head, parts ++ [part], hopen', rfl⟩
  · rintro ⟨head', parts', hother, rfl⟩
    obtain ⟨rfl, rfl⟩ := hopen'.unique hother
    rfl

theorem Tracks.close (hlookup : ∀ query, lookup' query = if query = id then none else lookup query) :
    Tracks state (items ++ [.close id]) lookup' := by
  refine h.of_other (fun query hne => ⟨fun heq => hne heq.symm, rfl⟩) (fun query hne => by rw [hlookup, if_neg hne]) ?_
  intro value
  rw [hlookup, if_pos rfl]
  constructor
  · intro hvalue
    cases hvalue
  · rintro ⟨head, parts, hopen, _⟩
    obtain ⟨hitem, _⟩ | ⟨hcut, _⟩ := open_concat.mp hopen
    · cases hitem
    · exact absurd rfl hcut

theorem Tracks.skip : Tracks state (items ++ [.skip]) lookup := by
  intro query value
  have hother : ∀ head parts, Open (items ++ [.skip]) query head parts ↔ Open items query head parts :=
    fun head parts => open_concat_other (fun hcut => hcut) rfl
  simp only [h query value, hother]

end

end streams
