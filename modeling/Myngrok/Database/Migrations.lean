import Myngrok.Database.Migrate

open golang transition sql

namespace myngrok.database

def Postgres.count (db : Postgres) : Nat := db.versions.length

/-- What has been committed is a front part of the migrations, each of them once. -/
structure Postgres.Applied (migrations : List Migration) (db : Postgres) : Prop where
  versions : db.versions = (migrations.take db.count).map Migration.version
  committed : db.committed = (migrations.take db.count).map Migration.upSQL

namespace Phase

/-- The migrations of which a call does not know that they are applied. -/
def left : Phase → Option (List Migration)
  | .checking migration rest | .beginning migration rest | .applying migration rest | .inserting migration rest
  | .committing migration rest => some (migration :: rest)
  | .unlocking none | .returned none => some []
  | _ => none

/-- Between the lock and the unlock. -/
def guarded : Phase → Bool
  | .locking | .returned _ | .abandoned => false
  | _ => true

end Phase

/-- A session in a transaction is at the first migration that is missing, and has done as much of it as its call has
    asked for. -/
def Connection.Ready (migrations : List Migration) (applied : Nat) (connection : Connection) : Prop :=
  match connection.phase with
  | .beginning migration rest => migrations.drop applied = migration :: rest
  | .applying migration rest => migrations.drop applied = migration :: rest ∧ connection.tx = some ⟨[], []⟩
  | .inserting migration rest =>
    migrations.drop applied = migration :: rest ∧ connection.tx = some ⟨[migration.upSQL], []⟩
  | .committing migration rest =>
    migrations.drop applied = migration :: rest ∧ connection.tx = some ⟨[migration.upSQL], [migration.version]⟩
  | _ => True

/-- How a connection stands to the database. -/
structure Fits (migrations : List Migration) (db : Postgres) (c : Nat) (connection : Connection) : Prop where
  knows : ∀ left, connection.phase.left = some left → ∃ seen ≤ db.count, migrations.drop seen = left
  holds : connection.ended = false → connection.phase.guarded = true → db.lock.HeldBy c
  ready : connection.ended = false → connection.Ready migrations db.count

structure Sound (migrations : List Migration) (s : Cluster) : Prop where
  applied : s.db.Applied migrations
  results : none ∈ s.results → migrations.length ≤ s.db.count
  fits : ∀ c connection, s.connections.lookup c = some connection → Fits migrations s.db c connection

/-- What a session may do to the database as far as other sessions are concerned. -/
structure Advances (c : Nat) (db next : Postgres) : Prop where
  mono : db.count ≤ next.count
  others : ∀ other, other ≠ c → db.lock.HeldBy other → next.lock.HeldBy other
  alone : next.count = db.count ∨ db.lock.HeldBy c

variable {migrations rest left : List Migration} {migration : Migration} {db next : Postgres} {c applied seen : Nat}
  {connection : Connection} {s : Cluster} {tx : Option Work} {err : Error}

theorem ready_of_not_guarded (hguarded : connection.phase.guarded = false) : connection.Ready migrations applied := by
  obtain ⟨phase, tx, lost, ended⟩ := connection
  cases phase with
  | locking | returned | abandoned => trivial
  | _ => cases hguarded

/-- Nobody but the holder of the lock can make a difference to a session. -/
theorem Fits.of_advances {other : Nat} (h : Fits migrations db other connection) (hadvances : Advances c db next)
    (hother : other ≠ c) : Fits migrations next other connection := by
  refine ⟨?_, ?_, ?_⟩
  · intro left hleft
    obtain ⟨seen, hseen, hdrop⟩ := h.knows left hleft
    exact ⟨seen, Nat.le_trans hseen hadvances.mono, hdrop⟩
  · intro hlive hguarded
    exact hadvances.others other hother (h.holds hlive hguarded)
  · intro hlive
    obtain hsame | hholder := hadvances.alone
    · rw [hsame]
      exact h.ready hlive
    · cases hguarded : connection.phase.guarded with
      | true => exact absurd ((h.holds hlive hguarded).unique hholder) hother
      | false => exact ready_of_not_guarded hguarded

theorem Sound.update {results : List (Option Error)} (h : Sound migrations s) (happlied : next.Applied migrations)
    (hadvances : Advances c s.db next) (hresults : none ∈ results → migrations.length ≤ next.count)
    (hfits : Fits migrations next c connection) :
    Sound migrations { db := next, connections := s.connections.insert c connection, results } := by
  refine ⟨happlied, hresults, ?_⟩
  intro other found hlookup
  rw [Map.lookup_insert_eq] at hlookup
  split at hlookup
  · next hsame =>
    cases hlookup
    subst hsame
    exact hfits
  · next hother => exact (h.fits other found hlookup).of_advances hadvances hother

theorem Advances.refl : Advances c db db := ⟨le_rfl, fun _ _ h => h, .inl rfl⟩

/-- A call that has seen all migrations leaves none unapplied. -/
theorem length_le_of_left (h : Fits migrations db c connection) (hleft : connection.phase.left = some []) :
    migrations.length ≤ db.count := by
  obtain ⟨seen, hseen, hdrop⟩ := h.knows [] hleft
  exact Nat.le_trans (List.drop_eq_nil_iff.mp hdrop) hseen

/-- So it is when a call ends. -/
theorem Sound.moveTo (h : Sound migrations s) (happlied : next.Applied migrations) (hadvances : Advances c s.db next)
    (hfits : Fits migrations next c connection) : Sound migrations ({ s with db := next }.moveTo c connection) := by
  have hmono : none ∈ s.results → migrations.length ≤ next.count := fun hmem =>
    Nat.le_trans (h.results hmem) hadvances.mono
  unfold Cluster.moveTo
  split
  · next result hphase =>
    refine h.update happlied hadvances ?_ hfits
    intro hmem
    rw [List.mem_cons] at hmem
    obtain rfl | hmem := hmem
    · exact length_le_of_left hfits (by rw [hphase]; rfl)
    · exact hmono hmem
  · exact h.update happlied hadvances hmono hfits

/-- The head of the loop, for the holder of the lock. -/
theorem fits_loop {lost ended : Bool} (hheld : db.lock.HeldBy c) (hseen : seen ≤ db.count)
    (hdrop : migrations.drop seen = left) : Fits migrations db c { phase := .loop left, tx, lost, ended } := by
  cases left with
  | nil | cons =>
    refine ⟨?_, fun _ _ => hheld, fun _ => trivial⟩
    rintro _ ⟨⟩
    exact ⟨seen, hseen, hdrop⟩

theorem take_succ_of_drop (hdrop : migrations.drop applied = migration :: rest) :
    migrations.take (applied + 1) = migrations.take applied ++ [migration] := by
  rw [List.take_add, hdrop]
  rfl

theorem drop_succ_of_drop (hdrop : migrations.drop seen = migration :: rest) : migrations.drop (seen + 1) = rest := by
  rw [← List.drop_drop, hdrop]
  rfl

/-- A version that is missing is that of the first migration that is missing. -/
theorem drop_count_of_missing (happlied : db.Applied migrations) (hseen : seen ≤ db.count)
    (hdrop : migrations.drop seen = migration :: rest) (hmissing : migration.version ∉ db.versions) :
    migrations.drop db.count = migration :: rest := by
  obtain hlt | heq := Nat.lt_or_eq_of_le hseen
  · refine absurd ?_ hmissing
    rw [happlied.versions]
    have hmem : migration ∈ migrations.take (seen + 1) := by
      rw [take_succ_of_drop hdrop]
      exact List.mem_append_right _ List.mem_cons_self
    exact List.mem_map_of_mem ((List.take_prefix_take_left hlt).subset hmem)
  · rw [← heq]
    exact hdrop

/-- A version that is there is that of a migration that is applied. -/
theorem lt_count_of_exists (hdistinct : (migrations.map Migration.version).Nodup) (happlied : db.Applied migrations)
    (hdrop : migrations.drop seen = migration :: rest) (hexists : migration.version ∈ db.versions) :
    seen < db.count := by
  by_contra hnot
  rw [happlied.versions] at hexists
  have hsplit : migrations.map Migration.version =
      (migrations.take seen).map Migration.version ++ (migration :: rest).map Migration.version := by
    rw [← List.map_append, ← hdrop, List.take_append_drop]
  rw [hsplit, List.nodup_append] at hdistinct
  have htaken : migrations.take db.count ⊆ migrations.take seen :=
    (List.take_prefix_take_left (Nat.le_of_not_lt hnot)).subset
  have hmem : migration.version ∈ (migrations.take seen).map Migration.version :=
    (List.map_subset _ htaken) hexists
  exact hdistinct.2.2 _ hmem _ List.mem_cons_self rfl

/-- What a statement that succeeds leaves: the database for all, and the session for its own call. -/
def Executes (migrations : List Migration) (db next : Postgres) (c : Nat) (connection : Connection) : Prop :=
  next.Applied migrations ∧ Advances c db next ∧ Fits migrations next c connection

/-- Statements that leave the rows as they are do nothing to the others. -/
theorem executes_of_fits (happlied : db.Applied migrations) (hversions : next.versions = db.versions)
    (hcommitted : next.committed = db.committed)
    (hothers : ∀ other, other ≠ c → db.lock.HeldBy other → next.lock.HeldBy other)
    (hfits : next.count = db.count → Fits migrations next c connection) : Executes migrations db next c connection := by
  have hcount : next.count = db.count := congrArg List.length hversions
  refine ⟨⟨?_, ?_⟩, ⟨Nat.le_of_eq hcount.symm, hothers, .inl hcount⟩, hfits hcount⟩
  · rw [hversions, hcount]
    exact happlied.versions
  · rw [hcommitted, hcount]
    exact happlied.committed

/-- Whatever comes of the unlock, the call returns what it has. -/
theorem fits_returned {tx' : Option Work} {lost lost' ended ended' : Bool} {result : Option Error}
    {lock : AdvisoryLock Nat} (hfits : Fits migrations db c ⟨.unlocking result, tx, lost, ended⟩) :
    Fits migrations { db with lock } c ⟨.returned result, tx', lost', ended'⟩ := by
  refine ⟨fun left hleft => hfits.knows left ?_, nofun, fun _ => trivial⟩
  cases result with
  | none => exact hleft
  | some err => cases hleft

section statements

variable {tx tx' : Option Work} {lost answer : Bool}

theorem executes_select (hdistinct : (migrations.map Migration.version).Nodup) (happlied : db.Applied migrations)
    (hfits : Fits migrations db c ⟨.checking migration rest, tx, lost, false⟩)
    (hexecute : db.execute c tx (.selectExists migration.version) = some (next, tx', answer)) :
    Executes migrations db next c ⟨if answer then .loop rest else .beginning migration rest, tx', lost, false⟩ := by
  rw [Postgres.execute, Option.ite_none_right_eq_some] at hexecute
  cases hexecute.2
  have hheld := hfits.holds rfl rfl
  obtain ⟨seen, hseen, hdrop⟩ := hfits.knows _ rfl
  refine executes_of_fits happlied rfl rfl (fun _ _ h => h) fun _ => ?_
  by_cases hexists : migration.version ∈ db.versions
  · rw [decide_eq_true hexists]
    exact fits_loop hheld (lt_count_of_exists hdistinct happlied hdrop hexists) (drop_succ_of_drop hdrop)
  · rw [decide_eq_false hexists]
    exact ⟨hfits.knows, fun _ _ => hheld, fun _ => drop_count_of_missing happlied hseen hdrop hexists⟩

/-- The transaction of the first migration that is missing makes it the last that is applied. -/
theorem executes_commit (happlied : db.Applied migrations)
    (hfits : Fits migrations db c ⟨.committing migration rest, tx, lost, false⟩)
    (hexecute : db.execute c tx .commit = some (next, tx', answer)) :
    Executes migrations db next c ⟨.loop rest, tx', lost, false⟩ := by
  obtain ⟨hdrop, rfl⟩ : migrations.drop db.count = migration :: rest ∧
    tx = some ⟨[migration.upSQL], [migration.version]⟩ := hfits.ready rfl
  cases hexecute
  have hheld := hfits.holds rfl rfl
  have hcount : (db.versions ++ [migration.version]).length = db.count + 1 := List.length_append
  refine ⟨⟨?_, ?_⟩, ⟨?_, fun _ _ h => h, .inr hheld⟩, ?_⟩
  · rw [Postgres.count, hcount, take_succ_of_drop hdrop, List.map_append, ← happlied.versions]
    rfl
  · rw [Postgres.count, hcount, take_succ_of_drop hdrop, List.map_append, ← happlied.committed]
    rfl
  · exact Nat.le_trans (Nat.le_succ _) (Nat.le_of_eq hcount.symm)
  · exact fits_loop hheld (Nat.le_of_eq hcount.symm) (drop_succ_of_drop hdrop)

theorem executes_of_execute {statement : Statement} (hdistinct : (migrations.map Migration.version).Nodup)
    (happlied : db.Applied migrations) (hfits : Fits migrations db c connection) (hlive : connection.ended = false)
    (hstatement : connection.phase.statement = some statement)
    (hexecute : db.execute c connection.tx statement = some (next, tx', answer)) :
    Executes migrations db next c { connection with phase := connection.phase.next migrations answer, tx := tx' } := by
  obtain ⟨phase, tx, lost, ended⟩ := connection
  obtain rfl : ended = false := hlive
  cases phase with
  | locking =>
    cases hstatement
    obtain ⟨lock, hacquire, heq⟩ := Option.map_eq_some_iff.mp hexecute
    cases heq
    obtain ⟨hheld, hfree⟩ := AdvisoryLock.acquire_spec hacquire
    exact executes_of_fits happlied rfl rfl (fun other hother h => absurd h (hfree other hother))
      fun _ => ⟨nofun, fun _ _ => hheld, fun _ => trivial⟩
  | creating =>
    cases hstatement
    cases hexecute
    exact executes_of_fits happlied rfl rfl (fun _ _ h => h)
      fun _ => fits_loop (hfits.holds rfl rfl) (Nat.zero_le _) List.drop_zero
  | checking migration rest =>
    cases hstatement
    exact executes_select hdistinct happlied hfits hexecute
  | beginning migration rest =>
    cases hstatement
    rw [Postgres.execute, Option.ite_none_right_eq_some] at hexecute
    cases hexecute.2
    exact executes_of_fits happlied rfl rfl (fun _ _ h => h)
      fun _ => ⟨hfits.knows, fun _ => hfits.holds rfl, fun _ => ⟨hfits.ready rfl, rfl⟩⟩
  | applying migration rest =>
    cases hstatement
    obtain ⟨hdrop, rfl⟩ : migrations.drop db.count = migration :: rest ∧ tx = some ⟨[], []⟩ := hfits.ready rfl
    cases hexecute
    exact executes_of_fits happlied rfl rfl (fun _ _ h => h)
      fun _ => ⟨hfits.knows, fun _ => hfits.holds rfl, fun _ => ⟨hdrop, rfl⟩⟩
  | inserting migration rest =>
    cases hstatement
    obtain ⟨hdrop, rfl⟩ : migrations.drop db.count = migration :: rest ∧ tx = some ⟨[migration.upSQL], []⟩ :=
      hfits.ready rfl
    simp only [Postgres.execute, Option.ite_none_right_eq_some] at hexecute
    cases hexecute.2
    exact executes_of_fits happlied rfl rfl (fun _ _ h => h)
      fun _ => ⟨hfits.knows, fun _ => hfits.holds rfl, fun _ => ⟨hdrop, rfl⟩⟩
  | rollingBack err =>
    cases hstatement
    cases hexecute
    exact executes_of_fits happlied rfl rfl (fun _ _ h => h)
      fun _ => ⟨nofun, fun _ _ => hfits.holds rfl rfl, fun _ => trivial⟩
  | committing migration rest =>
    cases hstatement
    exact executes_commit happlied hfits hexecute
  | unlocking result =>
    cases hstatement
    cases hexecute
    exact executes_of_fits happlied rfl rfl (fun _ hother h => h.release hother) fun _ => fits_returned hfits
  | returned result => cases hstatement
  | abandoned => cases hstatement

end statements

/-- A statement that fails leaves its call on the way to an error, still under the lock. -/
theorem fits_fail (hfits : Fits migrations db c connection) (hlive : connection.ended = false)
    (hfails : connection.phase.mayFail = true) :
    Fits migrations db c { connection with phase := connection.phase.fail err, tx } := by
  obtain ⟨phase, tx', lost, ended⟩ := connection
  obtain rfl : ended = false := hlive
  cases phase with
  | locking => exact ⟨nofun, nofun, fun _ => trivial⟩
  | creating | checking | applying | inserting | committing =>
    exact ⟨nofun, fun _ _ => hfits.holds rfl rfl, fun _ => trivial⟩
  | unlocking result => exact fits_returned hfits
  | beginning | rollingBack | returned | abandoned => cases hfails

/-- A call that is cut off returns nil only if all that is left is to unlock. -/
theorem left_of_failure {phase : Phase} (hfailure : phase.failure err = none) : phase.left = some [] := by
  cases phase with
  | unlocking result =>
    cases result with
    | none => rfl
    | some first => cases hfailure
  | returned result =>
    cases result with
    | none => rfl
    | some first => cases hfailure
  | _ => cases hfailure

theorem sound_of_step {e : MigrateEvent} {s' : Cluster} (hdistinct : (migrations.map Migration.version).Nodup)
    (h : Sound migrations s) (hstep : s.step migrations e = some s') : Sound migrations s' := by
  cases Cluster.step_cases hstep with
  | acquire hphase =>
    refine h.update h.applied .refl h.results ⟨?_, ?_, ?_⟩
    · rw [hphase]
      nofun
    · rw [hphase]
      nofun
    · intro _
      exact ready_of_not_guarded (by rw [hphase]; rfl)
  | acquireFailed =>
    refine ⟨h.applied, fun hmem => h.results ?_, h.fits⟩
    simpa using hmem
  | reply hlookup hlive hstatement hexecute =>
    obtain ⟨happlied, hadvances, hfits⟩ :=
      executes_of_execute hdistinct h.applied (h.fits _ _ hlookup) hlive hstatement hexecute
    exact h.moveTo happlied hadvances hfits
  | fail hlookup hlive hfails => exact h.moveTo h.applied .refl (fits_fail (h.fits _ _ hlookup) hlive hfails)
  | lose hlookup hstatement =>
    have hfits := h.fits _ _ hlookup
    refine h.update h.applied .refl ?_ ⟨hfits.knows, hfits.holds, hfits.ready⟩
    intro hmem
    rw [List.mem_cons] at hmem
    obtain hfailure | hmem := hmem
    · exact length_le_of_left hfits (left_of_failure hfailure.symm)
    · exact h.results hmem
  | late hlookup hlive hstatement hexecute =>
    obtain ⟨happlied, hadvances, -⟩ :=
      executes_of_execute hdistinct h.applied (h.fits _ _ hlookup) hlive hstatement hexecute
    refine h.update happlied hadvances (fun hmem => Nat.le_trans (h.results hmem) hadvances.mono) ?_
    exact ⟨nofun, fun _ => nofun, fun _ => trivial⟩
  | endSession hlookup =>
    have hfits := h.fits _ _ hlookup
    refine h.update ⟨h.applied.versions, h.applied.committed⟩ ⟨le_rfl, fun _ hother h => h.disconnect hother, .inl rfl⟩
      h.results ⟨hfits.knows, nofun, nofun⟩

theorem sound_of_run {events : List MigrateEvent} (hdistinct : (migrations.map Migration.version).Nodup)
    (hrun : run (Cluster.step migrations) Cluster.start events = some s) : Sound migrations s := by
  apply run_induction (P := fun _ s => Sound migrations s) _ _ hrun
  · exact ⟨⟨List.map_nil.symm, List.map_nil.symm⟩, nofun, nofun⟩
  · intro events s e next _ ih hstep
    exact sound_of_step hdistinct ih hstep

/-- At every moment the versions in `schema_migrations` are those of a front part of the list, exactly those migrations
    have been committed, in order and once each; and once a call of `Migrate` has returned nil, it is the whole list. -/
theorem migrations_applied_once {events : List MigrateEvent} (hdistinct : (migrations.map Migration.version).Nodup)
    (hrun : run (Cluster.step migrations) Cluster.start events = some s) :
    (∃ applied ≤ migrations.length, s.db.versions = (migrations.take applied).map Migration.version ∧
      s.db.committed = (migrations.take applied).map Migration.upSQL) ∧
    (none ∈ s.results → s.db.versions = migrations.map Migration.version ∧
      s.db.committed = migrations.map Migration.upSQL) := by
  obtain ⟨⟨hversions, hcommitted⟩, hresults, -⟩ := sound_of_run hdistinct hrun
  refine ⟨⟨s.db.count, ?_, hversions, hcommitted⟩, fun hmem => ?_⟩
  · have hlength := congrArg List.length hversions
    rw [List.length_map, List.length_take, Postgres.count] at hlength
    rw [Postgres.count]
    omega
  · rw [List.take_of_length_le (hresults hmem)] at hversions hcommitted
    exact ⟨hversions, hcommitted⟩

def twoMigrations : List Migration :=
  [⟨lit "001_users", lit "CREATE TABLE users ()"⟩, ⟨lit "002_agents", lit "CREATE TABLE agents ()"⟩]

/-- The first process is cut off while its first commit is on the way; the server comes to it after all, and a second
    process does the rest. -/
def cutOffAtCommit : List MigrateEvent :=
  [.acquire 1, .reply 1, .reply 1, .reply 1, .reply 1, .reply 1, .reply 1, .lose 1 (lit "timeout"), .acquire 2,
    .late 1, .endSession 1, .reply 2, .reply 2, .reply 2, .reply 2, .reply 2, .reply 2, .reply 2, .reply 2, .reply 2]

theorem migrations_applied_after_cutOff :
    ∃ s, run (Cluster.step twoMigrations) Cluster.start cutOffAtCommit = some s ∧
      s.results = [none, some (lit "commit migration 001_users: timeout")] ∧
      s.db.versions = twoMigrations.map Migration.version ∧ s.db.committed = twoMigrations.map Migration.upSQL := by
  have hresults : (run (Cluster.step twoMigrations) Cluster.start cutOffAtCommit).any (fun s =>
      s.results = [none, some (lit "commit migration 001_users: timeout")]) = true := by decide +kernel
  obtain ⟨s, hrun, hboth⟩ := (Option.any_eq_true _ _).mp hresults
  have hreturned := of_decide_eq_true hboth
  have happlied := (migrations_applied_once (by decide) hrun).2
  rw [hreturned] at happlied
  exact ⟨s, hrun, hreturned, happlied List.mem_cons_self⟩

end myngrok.database
