import Myngrok.Sql.Table

open golang

namespace sql

variable {Key Row : Type} {p : Key → Row → Bool} {condition : Row → Bool} {set : Row → Row}

/-- The rows of a table with a property, as a table of their own. -/
def restrict (table : Table Key Row) (p : Key → Row → Bool) : Table Key Row where
  entries := table.entries.filter fun entry => p entry.1 entry.2
  nodupKeys := table.nodupKeys.sublist List.filter_sublist

/-- The rows that `SELECT … WHERE …` returns, with their keys. -/
def rows (table : Table Key Row) (condition : Row → Bool) : List (Key × Row) :=
  (table.entries.filter fun entry => condition entry.2).map fun entry => (entry.1, entry.2)

/-- A query that asks for the property does not tell the table from its part. -/
theorem rows_restrict (table : Table Key Row) (hp : ∀ key row, condition row = true → p key row = true) :
    rows (restrict table p) condition = rows table condition := by
  rw [rows, restrict, List.filter_filter, rows]
  congr 2
  funext entry
  cases hcondition : condition entry.2 with
  | false => rfl
  | true => rw [hp entry.1 entry.2 hcondition, Bool.and_true]

theorem select_restrict (table : Table Key Row) (hp : ∀ key row, condition row = true → p key row = true) :
    select (restrict table p) condition = select table condition := by
  have hselect : ∀ table : Table Key Row, select table condition = (rows table condition).map Prod.fst := by
    intro table
    rw [select, rows, List.map_map]
    rfl
  rw [hselect, hselect, rows_restrict table hp]

/-- Statements that leave the property alone work on a part as on the table. -/
theorem restrict_update (table : Table Key Row) (condition : Key → Row → Bool)
    (hp : ∀ key row, p key (set row) = p key row) :
    restrict (update table condition set) p = update (restrict table p) condition set := by
  refine AList.ext ?_
  simp only [restrict, update, List.filter_map]
  congr 2
  funext entry
  simp only [Function.comp_apply]
  split
  · exact hp entry.1 entry.2
  · rfl

theorem mem_rows [DecidableEq Key] {table : Table Key Row} {key : Key} {row : Row} :
    (key, row) ∈ rows table condition ↔ table.lookup key = some row ∧ condition row = true := by
  have hmem : table.lookup key = some row ↔ (⟨key, row⟩ : Sigma fun _ => Row) ∈ table.entries := AList.mem_lookup_iff
  simp only [rows, List.mem_map, List.mem_filter, Prod.mk.injEq, hmem]
  constructor
  · rintro ⟨⟨key', row'⟩, hentry, rfl, rfl⟩
    exact hentry
  · exact fun hentry => ⟨⟨key, row⟩, hentry, rfl, rfl⟩

variable [DecidableEq Key] {table : Table Key Row} {key : Key} {row : Row}

theorem lookup_restrict (table : Table Key Row) (p : Key → Row → Bool) (key : Key) :
    (restrict table p).lookup key = (table.lookup key).filter (p key) := by
  refine Option.ext fun row => ?_
  have hmem : ∀ table : Table Key Row, table.lookup key = some row ↔ (⟨key, row⟩ : Sigma fun _ => Row) ∈ table.entries :=
    fun _ => AList.mem_lookup_iff
  rw [Option.filter_eq_some_iff, hmem, hmem, restrict, List.mem_filter]

theorem lookup_restrict_of_pos (hlookup : table.lookup key = some row) (hp : p key row = true) :
    (restrict table p).lookup key = some row := by
  rw [lookup_restrict, hlookup, Option.filter_some, if_pos hp]

theorem lookup_of_restrict (hlookup : (restrict table p).lookup key = some row) :
    table.lookup key = some row ∧ p key row = true := by
  rwa [lookup_restrict, Option.filter_eq_some_iff] at hlookup

theorem notMem_restrict (h : key ∉ table) : key ∉ restrict table p := by
  intro hmem
  obtain ⟨row, hrow⟩ := (Map.mem_iff_lookup _ _).mp hmem
  exact h ((Map.mem_iff_lookup _ _).mpr ⟨row, (lookup_of_restrict hrow).1⟩)

theorem rows_restrict_eq_nil (h : rows table condition = []) : rows (restrict table p) condition = [] := by
  refine List.eq_nil_iff_forall_not_mem.mpr fun entry hmem => ?_
  obtain ⟨hlookup, hcondition⟩ := mem_rows.mp hmem
  have hfound := mem_rows.mpr ⟨(lookup_of_restrict hlookup).1, hcondition⟩
  rw [h] at hfound
  cases hfound

/-- A statement that is about no row of the table changes nothing. -/
theorem update_eq_self {condition : Key → Row → Bool}
    (h : ∀ key row, table.lookup key = some row → condition key row = false) : update table condition set = table := by
  refine AList.ext ?_
  refine (List.map_congr_left fun entry hmem => ?_).trans (List.map_id _)
  rw [h entry.1 entry.2 (AList.mem_lookup_iff.mpr hmem)]
  rfl

/-- A statement about rows without the property does not touch the part that has it. -/
theorem restrict_update_of_neg {condition : Key → Row → Bool} (hp : ∀ key row, p key (set row) = p key row)
    (hothers : ∀ key row, table.lookup key = some row → condition key row = true → p key row = false) :
    restrict (update table condition set) p = restrict table p := by
  rw [restrict_update table condition hp]
  refine update_eq_self fun key row hrow => ?_
  obtain ⟨hlookup, hpart⟩ := lookup_of_restrict hrow
  cases hcondition : condition key row with
  | false => rfl
  | true =>
    rw [hothers key row hlookup hcondition] at hpart
    cases hpart

theorem filter_kerase {entries : List (Sigma fun _ : Key => Row)} (hnodup : entries.NodupKeys) :
    (entries.kerase key).filter (fun entry => p entry.1 entry.2) =
      (entries.filter fun entry => p entry.1 entry.2).kerase key := by
  induction entries with
  | nil => rfl
  | cons entry entries ih =>
    obtain ⟨hfirst, hrest⟩ := List.nodupKeys_cons.mp hnodup
    rw [List.filter_cons]
    by_cases hkey : key = entry.1
    · rw [List.kerase_cons_eq hkey]
      split
      · rw [List.kerase_cons_eq hkey]
      · refine (List.kerase_of_notMem_keys fun hmem => hfirst ?_).symm
        exact hkey ▸ (List.filter_sublist.map Sigma.fst).subset hmem
    · rw [List.kerase_cons_ne hkey, List.filter_cons]
      split
      · rw [List.kerase_cons_ne hkey, ih hrest]
      · exact ih hrest

/-- A row with the property is stored. -/
theorem restrict_insert (hrow : p key row = true) :
    restrict (table.insert key row) p = (restrict table p).insert key row := by
  refine AList.ext ?_
  show ((⟨key, row⟩ :: table.entries.kerase key).filter fun entry => p entry.1 entry.2) =
    ⟨key, row⟩ :: (table.entries.filter fun entry => p entry.1 entry.2).kerase key
  rw [List.filter_cons, if_pos hrow, filter_kerase table.nodupKeys]

/-- A row without the property is stored, in the place of one without it or of none. -/
theorem restrict_insert_of_neg (hrow : p key row = false)
    (hold : ∀ old, table.lookup key = some old → p key old = false) :
    restrict (table.insert key row) p = restrict table p := by
  refine AList.ext ?_
  show ((⟨key, row⟩ :: table.entries.kerase key).filter fun entry => p entry.1 entry.2) = (restrict table p).entries
  rw [List.filter_cons, if_neg (by rw [hrow]; exact Bool.false_ne_true), filter_kerase table.nodupKeys]
  refine List.kerase_of_notMem_keys fun hmem => ?_
  obtain ⟨old, hlookup⟩ := (Map.mem_iff_lookup (restrict table p) key).mp hmem
  obtain ⟨hlookup, hp⟩ := lookup_of_restrict hlookup
  rw [hold old hlookup] at hp
  cases hp

/-! Columns that are left out. -/

/-- The rows of a table without some of their columns. -/
def project {Row' : Type} (columns : Row → Row') (table : Table Key Row) : Table Key Row' where
  entries := table.entries.map fun entry => ⟨entry.1, columns entry.2⟩
  nodupKeys := by
    rw [List.NodupKeys, List.keys, List.map_map]
    exact table.nodupKeys

variable {Row' : Type} {columns : Row → Row'}

theorem lookup_project (table : Table Key Row) (key : Key) :
    (project columns table).lookup key = (table.lookup key).map columns := by
  have hdlookup : ∀ entries : List (Sigma fun _ : Key => Row),
      List.dlookup key (entries.map fun entry => (⟨entry.1, columns entry.2⟩ : Sigma fun _ : Key => Row')) =
        (List.dlookup key entries).map columns := by
    intro entries
    induction entries with
    | nil => rfl
    | cons entry entries ih =>
      obtain ⟨first, row⟩ := entry
      rw [List.map_cons]
      by_cases hkey : key = first
      · subst hkey
        rw [List.dlookup_cons_eq, List.dlookup_cons_eq, Option.map_some]
      · rw [List.dlookup_cons_ne _ ⟨first, _⟩ hkey, List.dlookup_cons_ne _ ⟨first, _⟩ hkey, ih]
  exact hdlookup table.entries

theorem mem_project : key ∈ project columns table ↔ key ∈ table := by
  rw [Map.mem_iff_lookup, Map.mem_iff_lookup, lookup_project]
  cases table.lookup key <;> simp

omit [DecidableEq Key] in
theorem select_project (table : Table Key Row) (condition : Row' → Bool) :
    select (project columns table) condition = select table fun row => condition (columns row) := by
  rw [select, project, List.filter_map, List.map_map]
  rfl

theorem map_kerase (entries : List (Sigma fun _ : Key => Row)) (columns : Row → Row') :
    (entries.kerase key).map (fun entry => (⟨entry.1, columns entry.2⟩ : Sigma fun _ : Key => Row')) =
      (entries.map fun entry => (⟨entry.1, columns entry.2⟩ : Sigma fun _ : Key => Row')).kerase key := by
  induction entries with
  | nil => rfl
  | cons entry entries ih =>
    obtain ⟨first, row⟩ := entry
    by_cases hkey : key = first
    · have hsame : key = (⟨first, columns row⟩ : Sigma fun _ : Key => Row').1 := hkey
      rw [List.kerase_cons_eq hkey, List.map_cons, List.kerase_cons_eq hsame]
    · have hother : key ≠ (⟨first, columns row⟩ : Sigma fun _ : Key => Row').1 := hkey
      rw [List.kerase_cons_ne hkey, List.map_cons, List.map_cons, List.kerase_cons_ne hother, ih]

theorem project_insert (table : Table Key Row) (key : Key) (row : Row) :
    project columns (table.insert key row) = (project columns table).insert key (columns row) :=
  AList.ext (congrArg (List.cons (⟨key, columns row⟩ : Sigma fun _ : Key => Row')) (map_kerase table.entries columns))

omit [DecidableEq Key] in
theorem project_update (table : Table Key Row) {condition : Key → Row → Bool} {condition' : Key → Row' → Bool}
    {set' : Row' → Row'} (hcondition : ∀ key row, condition' key (columns row) = condition key row)
    (hset : ∀ row, columns (set row) = set' (columns row)) :
    project columns (update table condition set) = update (project columns table) condition' set' := by
  refine AList.ext ?_
  simp only [project, update, List.map_map]
  refine List.map_congr_left fun entry _ => ?_
  simp only [Function.comp_apply, hcondition]
  split
  · rw [hset]
  · rfl

omit [DecidableEq Key] in
/-- A statement that sets other columns. -/
theorem project_update_of_same (table : Table Key Row) (condition : Key → Row → Bool)
    (hset : ∀ row, columns (set row) = columns row) :
    project columns (update table condition set) = project columns table := by
  refine AList.ext ?_
  simp only [project, update, List.map_map]
  refine List.map_congr_left fun entry _ => ?_
  simp only [Function.comp_apply]
  split
  · rw [hset]
  · rfl

end sql
