import Mathlib.Data.List.Induction
import Mathlib.Data.List.Perm.Subperm
import Mathlib.Tactic.Common

namespace streams

variable {Id Head Part : Type}

/-- One message of a connection that carries many streams: it opens a stream, adds a part to one, ends one, or concerns
    none. -/
inductive Item (Id Head Part : Type) where
  | start (id : Id) (head : Head)
  | chunk (id : Id) (part : Part)
  | close (id : Id)
  | skip

/-- The messages after which an older stream of `id` is no longer the open one. -/
def Item.Cuts (id : Id) : Item Id Head Part → Prop
  | .start other _ => other = id
  | .close other => other = id
  | _ => False

def Item.opens : Item Id Head Part → Option Id
  | .start id _ => some id
  | _ => none

def Item.part [DecidableEq Id] (id : Id) : Item Id Head Part → Option Part
  | .chunk other part => if other = id then some part else none
  | _ => none

variable [DecidableEq Id]

/-- The stream of `id` is open after `items`: it was started with `head`, has not been restarted or ended since, and
    `parts` are the parts it got, in order. -/
def Open (items : List (Item Id Head Part)) (id : Id) (head : Head) (parts : List Part) : Prop :=
  ∃ before after, items = before ++ .start id head :: after ∧ (∀ item ∈ after, ¬ item.Cuts id) ∧
    parts = after.filterMap (Item.part id)

variable {id : Id} {head : Head} {parts : List Part} {items : List (Item Id Head Part)} {item : Item Id Head Part}

theorem not_open_nil : ¬ Open ([] : List (Item Id Head Part)) id head parts := by
  rintro ⟨before, after, h, _⟩
  cases before <;> cases h

/-- How one more message changes which streams are open. -/
theorem open_concat :
    Open (items ++ [item]) id head parts ↔
      (item = .start id head ∧ parts = []) ∨
      (¬ item.Cuts id ∧ ∃ earlier, Open items id head earlier ∧ parts = earlier ++ (item.part id).toList) := by
  constructor
  · rintro ⟨before, after, h, hkept, rfl⟩
    induction after using List.reverseRecOn with
    | nil =>
      left
      exact ⟨List.singleton_inj.mp (List.append_inj' h rfl).2, rfl⟩
    | append_singleton after last _ =>
      right
      rw [← List.cons_append, ← List.append_assoc] at h
      obtain ⟨hitems, hlast⟩ := List.append_inj' h rfl
      cases hlast
      refine ⟨hkept item (by simp), _, ⟨before, after, hitems, fun i hi => hkept i (by simp [hi]), rfl⟩, ?_⟩
      rw [List.filterMap_append]
      cases hpart : item.part id <;> simp [hpart]
  · rintro (⟨rfl, rfl⟩ | ⟨hcut, _, ⟨before, after, rfl, hkept, rfl⟩, rfl⟩)
    · exact ⟨items, [], rfl, by simp, rfl⟩
    · refine ⟨before, after ++ [item], by simp, ?_, ?_⟩
      · intro i hi
        rcases List.mem_append.mp hi with hi | hi
        · exact hkept i hi
        · rw [List.mem_singleton] at hi
          exact hi ▸ hcut
      · rw [List.filterMap_append]
        cases hpart : item.part id <;> simp [hpart]

/-- A message that concerns another stream, or none, leaves a stream open as it was. -/
theorem open_concat_other (hcut : ¬ item.Cuts id) (hpart : item.part id = none) :
    Open (items ++ [item]) id head parts ↔ Open items id head parts := by
  rw [open_concat, hpart]
  constructor
  · rintro (⟨rfl, _⟩ | ⟨_, earlier, hopen, rfl⟩)
    · exact absurd rfl hcut
    · simpa using hopen
  · intro hopen
    exact .inr ⟨hcut, parts, hopen, by simp⟩

/-- The message belongs to the stream of `id`. -/
def Item.about (id : Id) : Item Id Head Part → Bool
  | .start other _ => other = id
  | .chunk other _ => other = id
  | .close other => other = id
  | .skip => false

/-- The messages of one stream, in order. -/
def about (id : Id) (items : List (Item Id Head Part)) : List (Item Id Head Part) :=
  items.filter (Item.about id)

theorem about_concat (id : Id) (items : List (Item Id Head Part)) (item : Item Id Head Part) :
    about id (items ++ [item]) = if item.about id then about id items ++ [item] else about id items := by
  rw [about, List.filter_append]
  split
  · rename_i habout
    simp [habout, about]
  · rename_i habout
    simp [habout, about]

theorem Item.about_inj {other : Id} (h : item.about id = true) (h' : item.about other = true) : id = other := by
  cases item with
  | skip => cases h
  | start _ _ | chunk _ _ | close _ => exact (of_decide_eq_true h).symm.trans (of_decide_eq_true h')

/-- Whether a stream is open, and with what, is decided by its own messages. -/
theorem open_about : Open items id head parts ↔ Open (about id items) id head parts := by
  induction items using List.reverseRecOn generalizing parts with
  | nil => rfl
  | append_singleton items item ih =>
    rw [about_concat]
    split
    · rw [open_concat, open_concat]
      simp only [ih]
    · rename_i habout
      have hcut : ¬ item.Cuts id := by
        intro hcut
        cases item <;> simp_all [Item.Cuts, Item.about]
      have hpart : item.part id = none := by
        cases item <;> simp_all [Item.part, Item.about]
      rw [open_concat_other hcut hpart, ih]

/-- A stream of which only the start and some parts have been seen is open with exactly these parts. -/
theorem open_of_about (h : about id items = .start id head :: parts.map (.chunk id)) : Open items id head parts := by
  rw [open_about, h]
  refine ⟨[], parts.map (.chunk id), rfl, ?_, ?_⟩
  · intro item hmem
    obtain ⟨part, _, rfl⟩ := List.mem_map.mp hmem
    exact fun hcut => hcut
  · rw [List.filterMap_map]
    have hpart : (Item.part id ∘ fun part => (Item.chunk id part : Item Id Head Part)) = some := by
      funext part
      exact if_pos rfl
    rw [hpart, List.filterMap_some]

/-- A stream whose last message is its end is not open. -/
theorem not_open_of_about {sent : List (Item Id Head Part)} (h : about id items = sent ++ [.close id]) :
    ¬ Open items id head parts := by
  rw [open_about, h, open_concat]
  rintro (⟨hitem, _⟩ | ⟨hcut, _⟩)
  · cases hitem
  · exact hcut rfl

theorem about_ne_nil_of_open (h : Open items id head parts) : about id items ≠ [] := by
  intro hnil
  rw [open_about, hnil] at h
  exact not_open_nil h

/-- At most `n` streams are open after `items`. -/
def OpenAtMost (n : Nat) (items : List (Item Id Head Part)) : Prop :=
  ∀ ids : List Id, ids.Nodup → (∀ id ∈ ids, ∃ head parts, Open items id head parts) → ids.length ≤ n

/-- Starts of different streams leave them all open. -/
theorem open_of_starts {starts : List (Id × Head)} (hnodup : (starts.map Prod.fst).Nodup) (hmem : (id, head) ∈ starts) :
    Open (starts.map fun start => (Item.start start.1 start.2 : Item Id Head Part)) id head [] := by
  obtain ⟨before, after, rfl⟩ := List.append_of_mem hmem
  refine ⟨before.map fun start => .start start.1 start.2, after.map fun start => .start start.1 start.2, by simp, ?_, ?_⟩
  · intro item hitem hcut
    obtain ⟨start, hstart, rfl⟩ := List.mem_map.mp hitem
    rw [List.map_append, List.map_cons, List.nodup_append, List.nodup_cons] at hnodup
    exact hnodup.2.1.1 (List.mem_map.mpr ⟨start, hstart, hcut⟩)
  · rw [eq_comm, List.filterMap_eq_nil_iff]
    intro item hitem
    obtain ⟨start, _, rfl⟩ := List.mem_map.mp hitem
    rfl

theorem OpenAtMost.of_about {n : Nat} {items' : List (Item Id Head Part)} (h : OpenAtMost n items)
    (habout : ∀ id, about id items' = about id items) : OpenAtMost n items' := by
  intro ids hnodup hopen
  refine h ids hnodup ?_
  intro id hmem
  obtain ⟨head, parts, hid⟩ := hopen id hmem
  rw [open_about, habout, ← open_about] at hid
  exact ⟨head, parts, hid⟩

theorem OpenAtMost.of_length {n : Nat} (h : items.length ≤ n) : OpenAtMost n items := by
  intro ids hnodup hopen
  have hstarted : ids ⊆ items.filterMap Item.opens := by
    intro id hmem
    obtain ⟨head, parts, before, after, rfl, _⟩ := hopen id hmem
    exact List.mem_filterMap.mpr ⟨.start id head, by simp, rfl⟩
  exact Nat.le_trans (hnodup.subperm hstarted).length_le (Nat.le_trans (List.length_filterMap_le _ _) h)

end streams
