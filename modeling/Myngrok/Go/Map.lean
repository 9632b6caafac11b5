import Mathlib.Data.List.AList

namespace golang

/-- A Go map. The keys of an `AList` are distinct by construction; the order of its entries stands for no iteration
    order. -/
abbrev Map (K V : Type) := AList (fun _ : K => V)

namespace Map

variable {K V : Type} [DecidableEq K] {key : K}

/-- Equality of the entry lists, as a decision procedure that evaluates. -/
instance [DecidableEq V] : DecidableEq (Map K V) := fun a b =>
  decidable_of_iff (a.entries = b.entries) ⟨AList.ext, congrArg AList.entries⟩

/-- `len(m)`. -/
def len {K V : Type} (m : Map K V) : Nat := m.keys.length

/-- The number of entries whose value passes a test. -/
def count {K V : Type} (p : V → Bool) (m : Map K V) : Nat := m.entries.countP fun entry => p entry.2

theorem lookup_insert_eq (m : Map K V) (key : K) (value : V) (query : K) :
    (m.insert key value).lookup query = if query = key then some value else m.lookup query := by
  by_cases h : query = key
  · subst h
    rw [AList.lookup_insert, if_pos rfl]
  · rw [AList.lookup_insert_ne h, if_neg h]

theorem lookup_erase_eq (m : Map K V) (key query : K) :
    (m.erase key).lookup query = if query = key then none else m.lookup query := by
  by_cases h : query = key
  · subst h
    rw [AList.lookup_erase, if_pos rfl]
  · rw [AList.lookup_erase_ne h, if_neg h]

theorem mem_iff_lookup (m : Map K V) (key : K) : key ∈ m ↔ ∃ value, m.lookup key = some value := by
  rw [← AList.lookup_isSome, Option.isSome_iff_exists]

theorem eq_empty_of_lookup (m : Map K V) (h : ∀ key, m.lookup key = none) : m = ∅ := by
  apply AList.ext
  rw [AList.empty_entries, List.eq_nil_iff_forall_not_mem]
  rintro ⟨key, value⟩ hmem
  have hlookup := AList.mem_lookup_iff.mpr hmem
  rw [h key] at hlookup
  cases hlookup

theorem len_insert_of_mem (m : Map K V) (value : V) (h : key ∈ m) : len (m.insert key value) = len m := by
  have hkey : key ∈ m.keys := AList.mem_keys.mp h
  have hpos := List.length_pos_of_mem hkey
  rw [len, AList.keys_insert, List.length_cons, List.length_erase_of_mem hkey, len]
  omega

theorem len_insert_of_notMem (m : Map K V) (value : V) (h : key ∉ m) : len (m.insert key value) = len m + 1 := by
  have hkey : key ∉ m.keys := fun hmem => h (AList.mem_keys.mpr hmem)
  rw [len, AList.keys_insert, List.length_cons, List.erase_of_not_mem hkey, len]

theorem len_erase_le (m : Map K V) (key : K) : len (m.erase key) ≤ len m := by
  rw [len, AList.keys_erase]
  exact List.length_erase_le

theorem count_insert_of_notMem (p : V → Bool) (m : Map K V) (value : V) (h : key ∉ m) :
    count p (m.insert key value) = count p m + if p value then 1 else 0 := by
  have hkey : key ∉ m.entries.keys := fun hmem => h (AList.mem_keys.mpr hmem)
  rw [count, AList.entries_insert, List.kerase_of_notMem_keys hkey, List.countP_cons, count]

/-- Replacing a value takes the old one out of the count. -/
theorem count_insert_of_lookup (p : V → Bool) (m : Map K V) (value : V) {old : V} (h : m.lookup key = some old) :
    count p (m.insert key value) + (if p old then 1 else 0) = count p m + if p value then 1 else 0 := by
  have hkey : key ∈ m.entries.keys := AList.mem_keys.mp ((mem_iff_lookup m key).mpr ⟨old, h⟩)
  obtain ⟨found, before, after, hfresh, hentries, hrest⟩ := List.exists_of_kerase hkey
  have hfound : found = old := by
    have hmem : (⟨key, found⟩ : Sigma fun _ : K => V) ∈ m.entries := by simp [hentries]
    have hlookup := AList.mem_lookup_iff.mpr hmem
    rw [h] at hlookup
    cases hlookup
    rfl
  subst hfound
  rw [count, AList.entries_insert, hrest, List.countP_cons, List.countP_append, count, hentries,
    List.countP_append, List.countP_cons]
  dsimp only
  omega

theorem entries_erase (m : Map K V) (key : K) :
    (m.erase key).entries = m.entries.filter fun entry => decide (entry.1 ≠ key) := by
  have hnodup : m.entries.NodupKeys := m.nodupKeys
  show m.entries.kerase key = _
  generalize m.entries = entries at hnodup
  induction entries with
  | nil => rfl
  | cons entry entries ih =>
    obtain ⟨hnew, hrest⟩ := List.nodupKeys_cons.mp hnodup
    by_cases hkey : key = entry.1
    · subst hkey
      rw [List.kerase_cons_eq rfl, List.filter_cons_of_neg (by simp), eq_comm, List.filter_eq_self]
      intro other hmem
      refine decide_eq_true ?_
      intro heq
      exact hnew (heq ▸ List.mem_keys_of_mem hmem)
    · rw [List.kerase_cons_ne hkey, ih hrest, List.filter_cons_of_pos]
      exact decide_eq_true (Ne.symm hkey)

theorem entries_foldl_erase (keys : List K) (m : Map K V) :
    (keys.foldl (fun m key => m.erase key) m).entries = m.entries.filter fun entry => decide (entry.1 ∉ keys) := by
  induction keys generalizing m with
  | nil => simp
  | cons key keys ih =>
    rw [List.foldl_cons, ih, entries_erase, List.filter_filter]
    refine List.filter_congr ?_
    intro entry _
    simp [not_or, Bool.and_comm]

theorem lookup_foldl_erase (keys : List K) (m : Map K V) (query : K) :
    (keys.foldl (fun m key => m.erase key) m).lookup query = if query ∈ keys then none else m.lookup query := by
  induction keys generalizing m with
  | nil => rfl
  | cons key keys ih =>
    rw [List.foldl_cons, ih, lookup_erase_eq]
    by_cases hkey : query = key
    · rw [if_pos hkey, if_pos (List.mem_cons.mpr (.inl hkey)), ite_self]
    · simp only [List.mem_cons, hkey, if_false, false_or]

/-- What a loop of assignments leaves in a map comes from one of them, or was there before. -/
theorem mem_of_lookup_foldl_insert {A : Type} {key : A → K} {value : A → V} {list : List A} {m : Map K V} {query : K}
    {v : V} (h : (list.foldl (fun m x => m.insert (key x) (value x)) m).lookup query = some v) :
    (∃ x ∈ list, key x = query ∧ value x = v) ∨ m.lookup query = some v := by
  induction list generalizing m with
  | nil => exact .inr h
  | cons x rest ih =>
    rcases ih h with ⟨y, hy, hfound⟩ | hbefore
    · exact .inl ⟨y, List.mem_cons_of_mem x hy, hfound⟩
    · rw [lookup_insert_eq] at hbefore
      split at hbefore
      · next heq => exact .inl ⟨x, List.mem_cons_self, heq.symm, Option.some.inj hbefore⟩
      · exact .inr hbefore

theorem lookup_foldl_insert (value : K → V) (keys : List K) (m : Map K V) (query : K) :
    (keys.foldl (fun m key => m.insert key (value key)) m).lookup query =
      if query ∈ keys then some (value query) else m.lookup query := by
  induction keys generalizing m with
  | nil => rfl
  | cons key rest ih =>
    rw [List.foldl_cons, ih, lookup_insert_eq]
    by_cases hkey : query = key
    · subst hkey
      rw [if_pos rfl, if_pos List.mem_cons_self, ite_self]
    · simp only [List.mem_cons, hkey, if_false, false_or]

/-- A loop over keys that keeps or deletes each of them by its value. -/
theorem lookup_foldl_sweep {sweep : Map K V → K → Map K V} {keep : V → Bool}
    (hsweep : ∀ m key query, (sweep m key).lookup query =
      if query = key then (m.lookup query).filter keep else m.lookup query) (keys : List K) (m : Map K V) (query : K) :
    (keys.foldl sweep m).lookup query = if query ∈ keys then (m.lookup query).filter keep else m.lookup query := by
  induction keys generalizing m with
  | nil => rfl
  | cons key keys ih =>
    rw [List.foldl_cons, ih, hsweep]
    by_cases hkey : query = key
    · have hmem : query ∈ key :: keys := List.mem_cons.mpr (.inl hkey)
      rw [if_pos hkey, if_pos hmem, Option.filter_filter]
      split
      · simp only [Bool.and_self]
      · rfl
    · rw [if_neg hkey]
      simp only [List.mem_cons, hkey, false_or]

end Map

end golang
