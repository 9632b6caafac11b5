import Myngrok.Go.Map
import Myngrok.Go.Text

open golang

namespace sql

/-- A table with a primary key. -/
abbrev Table (Key Row : Type) := Map Key Row

variable {Key Row : Type}

/-- `UPDATE … SET … WHERE …`. -/
def update (table : Table Key Row) (condition : Key → Row → Bool) (set : Row → Row) : Table Key Row where
  entries := table.entries.map fun entry => ⟨entry.1, if condition entry.1 entry.2 then set entry.2 else entry.2⟩
  nodupKeys := by
    rw [List.NodupKeys, List.keys, List.map_map]
    exact table.nodupKeys

/-- The keys that `SELECT … WHERE …` returns. -/
def select (table : Table Key Row) (condition : Row → Bool) : List Key :=
  (table.entries.filter fun entry => condition entry.2).map Sigma.fst

/-- The error of a query that must return a row. -/
def noRows : Error := lit "no rows in result set"

/-- The error of an `INSERT` that a `UNIQUE` constraint forbids, up to the constraint's name. -/
def duplicateKey : Error := lit "ERROR: duplicate key value violates unique constraint"

variable [DecidableEq Key]

theorem lookup_update (table : Table Key Row) (condition : Key → Row → Bool) (set : Row → Row) (key : Key) :
    (update table condition set).lookup key =
      (table.lookup key).map fun row => if condition key row then set row else row := by
  obtain ⟨entries, hnodup⟩ := table
  show List.dlookup key (entries.map _) = (List.dlookup key entries).map _
  clear hnodup
  induction entries with
  | nil => rfl
  | cons entry entries ih =>
    obtain ⟨first, row⟩ := entry
    rw [List.map_cons]
    by_cases hkey : key = first
    · subst hkey
      rw [List.dlookup_cons_eq, List.dlookup_cons_eq]
      rfl
    · rw [List.dlookup_cons_ne _ ⟨first, _⟩ hkey, List.dlookup_cons_ne _ ⟨first, _⟩ hkey, ih]

theorem mem_select {table : Table Key Row} {condition : Row → Bool} {key : Key} :
    key ∈ select table condition ↔ ∃ row, table.lookup key = some row ∧ condition row = true := by
  simp only [select, List.mem_map, List.mem_filter, Sigma.exists]
  constructor
  · rintro ⟨_, row, ⟨hmem, hcondition⟩, rfl⟩
    exact ⟨row, AList.mem_lookup_iff.mpr hmem, hcondition⟩
  · rintro ⟨row, hlookup, hcondition⟩
    exact ⟨key, row, ⟨AList.mem_lookup_iff.mp hlookup, hcondition⟩, rfl⟩

end sql
