import Myngrok.Go.Map
import Myngrok.Go.Text
import Myngrok.Sql.AdvisoryLock
import Myngrok.Transition.Run

open golang sql

namespace myngrok.database

structure Migration where
  version : GoString
  upSQL : GoString
  deriving DecidableEq

/-- What a transaction has done so far: the migrations it has run, and the rows that it has put into
    `schema_migrations`. -/
structure Work where
  upSQL : List GoString
  versions : List GoString
  deriving DecidableEq

/-- The database: whether `schema_migrations` exists, its rows, and the migrations that have been committed, both in the
    order of the commits. -/
structure Postgres where
  created : Bool
  versions : List GoString
  committed : List GoString
  lock : AdvisoryLock Nat
  deriving DecidableEq

/-- The statements of `Migrate`. -/
inductive Statement where
  | advisoryLock
  | createTable
  | selectExists (version : GoString)
  | begin
  | up (upSQL : GoString)
  | insert (version : GoString)
  | commit
  | rollback
  | advisoryUnlock
  deriving DecidableEq

namespace Postgres

def empty : Postgres := { created := false, versions := [], committed := [], lock := none }

/-- A statement of a session succeeds: the database, the transaction of the session, and the answer of `SELECT EXISTS`.
    There is none while the statement waits or if it cannot succeed. -/
def execute (db : Postgres) (session : Nat) (tx : Option Work) : Statement → Option (Postgres × Option Work × Bool)
  | .advisoryLock => (db.lock.acquire session).map fun lock => ({ db with lock }, tx, true)
  | .createTable => some ({ db with created := true }, tx, true)
  | .selectExists version => if db.created then some (db, tx, version ∈ db.versions) else none
  | .begin => if tx = none then some (db, some ⟨[], []⟩, true) else none
  | .up upSQL => tx.map fun work => (db, some { work with upSQL := work.upSQL ++ [upSQL] }, true)
  | .insert version =>
    match tx with
    | some work =>
      if db.created ∧ version ∉ db.versions ++ work.versions then
        some (db, some { work with versions := work.versions ++ [version] }, true)
      else none
    | none => none
  | .commit => tx.map fun work =>
    ({ db with versions := db.versions ++ work.versions, committed := db.committed ++ work.upSQL }, none, true)
  | .rollback => some (db, none, true)
  | .advisoryUnlock => some ({ db with lock := db.lock.release session }, tx, true)

end Postgres

/-- Where a `Migrate` call stands: the statement it waits for, with the migration it is at and those behind it.
    `abandoned` is a session whose client is gone, with nothing left to do. -/
inductive Phase where
  | locking
  | creating
  | checking (migration : Migration) (rest : List Migration)
  | beginning (migration : Migration) (rest : List Migration)
  | applying (migration : Migration) (rest : List Migration)
  | inserting (migration : Migration) (rest : List Migration)
  | rollingBack (err : Error)
  | committing (migration : Migration) (rest : List Migration)
  | unlocking (result : Option Error)
  | returned (result : Option Error)
  | abandoned
  deriving DecidableEq

namespace Phase

def statement : Phase → Option Statement
  | .locking => some .advisoryLock
  | .creating => some .createTable
  | .checking migration _ => some (.selectExists migration.version)
  | .beginning _ _ => some .begin
  | .applying migration _ => some (.up migration.upSQL)
  | .inserting migration _ => some (.insert migration.version)
  | .rollingBack _ => some .rollback
  | .committing _ _ => some .commit
  | .unlocking _ => some .advisoryUnlock
  | .returned _ | .abandoned => none

/-- The head of the loop. -/
def loop : List Migration → Phase
  | [] => .unlocking none
  | migration :: rest => .checking migration rest

/-- After a statement that succeeded. -/
def next (migrations : List Migration) (answer : Bool) : Phase → Phase
  | .locking => .creating
  | .creating => loop migrations
  | .checking migration rest => if answer then loop rest else .beginning migration rest
  | .beginning migration rest => .applying migration rest
  | .applying migration rest => .inserting migration rest
  | .inserting migration rest => .committing migration rest
  | .rollingBack err => .unlocking (some err)
  | .committing _ rest => loop rest
  | .unlocking result => .returned result
  | .returned result => .returned result
  | .abandoned => .abandoned

/-- What `Migrate` returns if its statement fails with this error. -/
def failure (err : Error) : Phase → Option Error
  | .locking => some (lit "acquire migration lock: " ++ err)
  | .creating => some (lit "create schema_migrations: " ++ err)
  | .checking migration _ => some (lit "check migration " ++ migration.version ++ lit ": " ++ err)
  | .beginning migration _ => some (lit "begin migration " ++ migration.version ++ lit ": " ++ err)
  | .applying migration _ | .inserting migration _ =>
    some (lit "apply migration " ++ migration.version ++ lit ": " ++ err)
  | .committing migration _ => some (lit "commit migration " ++ migration.version ++ lit ": " ++ err)
  | .rollingBack first => some first
  | .unlocking result | .returned result => result
  | .abandoned => some err

/-- A connection on which `BEGIN` or `ROLLBACK` fails is closed by pgx. -/
def mayFail : Phase → Bool
  | .beginning .. | .rollingBack _ | .returned _ | .abandoned => false
  | _ => true

/-- After a statement that failed, on a connection that is still good. -/
def fail (err : Error) (phase : Phase) : Phase :=
  match phase with
  | .locking | .unlocking _ => .returned (phase.failure err)
  | .applying .. | .inserting .. => .rollingBack ((phase.failure err).getD err)
  | _ => .unlocking (phase.failure err)

end Phase

/-- A connection of a pool, with the `Migrate` call that has it. `lost` says that the client is cut off, `ended` that
    the session of the server is over. -/
structure Connection where
  phase : Phase
  tx : Option Work
  lost : Bool
  ended : Bool
  deriving DecidableEq

/-- Any number of processes at one database, and what their calls of `Migrate` returned. -/
structure Cluster where
  db : Postgres
  connections : Map Nat Connection
  results : List (Option Error)
  deriving DecidableEq

/-- `reply` and `fail` are a statement with what comes back; `lose` cuts a client off while its statement is on the way,
    and `late` is the server coming to that statement after all. -/
inductive MigrateEvent where
  | acquire (connection : Nat)
  | acquireFailed (err : Error)
  | reply (connection : Nat)
  | fail (connection : Nat) (err : Error)
  | lose (connection : Nat) (err : Error)
  | late (connection : Nat)
  | endSession (connection : Nat)
  deriving DecidableEq

namespace Cluster

def start : Cluster := { db := .empty, connections := ∅, results := [] }

def setConnection (s : Cluster) (c : Nat) (connection : Connection) : Cluster :=
  { s with connections := s.connections.insert c connection }

/-- A `Migrate` call moves on, and may be at its end. -/
def moveTo (s : Cluster) (c : Nat) (connection : Connection) : Cluster :=
  match connection.phase with
  | .returned result => { s.setConnection c connection with results := result :: s.results }
  | _ => s.setConnection c connection

def step (migrations : List Migration) (s : Cluster) : MigrateEvent → Option Cluster
  | .acquire c =>
    match s.connections.lookup c with
    | none => some (s.setConnection c { phase := .locking, tx := none, lost := false, ended := false })
    | some connection =>
      match connection.phase with
      | .returned _ => some (s.setConnection c { connection with phase := .locking })
      | _ => none
  | .acquireFailed err =>
    some { s with results := some (lit "acquire connection for migration lock: " ++ err) :: s.results }
  | .reply c => do
    let connection ← s.connections.lookup c
    if connection.lost ∨ connection.ended then none
    else
      let statement ← connection.phase.statement
      let (db, tx, answer) ← s.db.execute c connection.tx statement
      some ({ s with db }.moveTo c { connection with phase := connection.phase.next migrations answer, tx })
  | .fail c err => do
    let connection ← s.connections.lookup c
    if connection.lost ∨ connection.ended ∨ ¬connection.phase.mayFail then none
    else
      -- A transaction that fails to commit is rolled back.
      let tx := if connection.phase.statement = some .commit then none else connection.tx
      some (s.moveTo c { connection with phase := connection.phase.fail err, tx })
  | .lose c err => do
    let connection ← s.connections.lookup c
    if connection.lost ∨ connection.phase.statement = none then none
    else
      some { s.setConnection c { connection with lost := true } with
        results := connection.phase.failure err :: s.results }
  | .late c => do
    let connection ← s.connections.lookup c
    if ¬connection.lost ∨ connection.ended then none
    else
      let statement ← connection.phase.statement
      let (db, tx, _) ← s.db.execute c connection.tx statement
      some ({ s with db }.setConnection c { connection with phase := .abandoned, tx })
  | .endSession c => do
    let connection ← s.connections.lookup c
    some ({ s with db := { s.db with lock := s.db.lock.disconnect c } }.setConnection c
      { connection with tx := none, ended := true })

section

variable (migrations : List Migration) (s : Cluster)

/-- The ways a step can go. -/
inductive Step : MigrateEvent → Cluster → Prop where
  | acquire {c} {connection : Connection} (hphase : connection.phase = .locking) :
    Step (.acquire c) (s.setConnection c connection)
  | acquireFailed {err} : Step (.acquireFailed err)
      { s with results := some (lit "acquire connection for migration lock: " ++ err) :: s.results }
  | reply {c} {connection : Connection} {statement db tx answer} (hlookup : s.connections.lookup c = some connection)
      (hlive : connection.ended = false) (hstatement : connection.phase.statement = some statement)
      (hexecute : s.db.execute c connection.tx statement = some (db, tx, answer)) :
    Step (.reply c) ({ s with db }.moveTo c { connection with phase := connection.phase.next migrations answer, tx })
  | fail {c} {connection : Connection} {tx err} (hlookup : s.connections.lookup c = some connection)
      (hlive : connection.ended = false) (hfails : connection.phase.mayFail = true) :
    Step (.fail c err) (s.moveTo c { connection with phase := connection.phase.fail err, tx })
  | lose {c} {connection : Connection} {err} (hlookup : s.connections.lookup c = some connection)
      (hstatement : connection.phase.statement ≠ none) :
    Step (.lose c err) { s.setConnection c { connection with lost := true } with
      results := connection.phase.failure err :: s.results }
  | late {c} {connection : Connection} {statement db tx answer} (hlookup : s.connections.lookup c = some connection)
      (hlive : connection.ended = false) (hstatement : connection.phase.statement = some statement)
      (hexecute : s.db.execute c connection.tx statement = some (db, tx, answer)) :
    Step (.late c) ({ s with db }.setConnection c { connection with phase := .abandoned, tx })
  | endSession {c} {connection : Connection} (hlookup : s.connections.lookup c = some connection) :
    Step (.endSession c) ({ s with db := { s.db with lock := s.db.lock.disconnect c } }.setConnection c
      { connection with tx := none, ended := true })

end

theorem step_cases {migrations : List Migration} {s next : Cluster} {e : MigrateEvent}
    (h : s.step migrations e = some next) : s.Step migrations e next := by
  cases e with
  | acquire c =>
    simp only [step] at h
    split at h
    · cases h
      exact .acquire rfl
    · split at h
      · cases h
        exact .acquire rfl
      · cases h
  | acquireFailed err =>
    cases h
    exact .acquireFailed
  | reply c =>
    obtain ⟨connection, hlookup, h⟩ := Option.bind_eq_some_iff.mp h
    split at h
    · cases h
    · next hlive =>
      obtain ⟨statement, hstatement, h⟩ := Option.bind_eq_some_iff.mp h
      obtain ⟨⟨db, tx, answer⟩, hexecute, h⟩ := Option.bind_eq_some_iff.mp h
      cases h
      exact .reply hlookup (Bool.eq_false_iff.mpr fun hended => hlive (.inr hended)) hstatement hexecute
  | fail c err =>
    obtain ⟨connection, hlookup, h⟩ := Option.bind_eq_some_iff.mp h
    split at h
    · cases h
    · next hlive =>
      cases h
      simp only [not_or, not_not] at hlive
      exact .fail hlookup (Bool.eq_false_iff.mpr hlive.2.1) hlive.2.2
  | lose c err =>
    obtain ⟨connection, hlookup, h⟩ := Option.bind_eq_some_iff.mp h
    split at h
    · cases h
    · next hlive =>
      cases h
      exact .lose hlookup fun hnone => hlive (.inr hnone)
  | late c =>
    obtain ⟨connection, hlookup, h⟩ := Option.bind_eq_some_iff.mp h
    split at h
    · cases h
    · next hlive =>
      obtain ⟨statement, hstatement, h⟩ := Option.bind_eq_some_iff.mp h
      obtain ⟨⟨db, tx, answer⟩, hexecute, h⟩ := Option.bind_eq_some_iff.mp h
      cases h
      exact .late hlookup (Bool.eq_false_iff.mpr fun hended => hlive (.inr hended)) hstatement hexecute
  | endSession c =>
    obtain ⟨connection, hlookup, h⟩ := Option.bind_eq_some_iff.mp h
    cases h
    exact .endSession hlookup

end Cluster

end myngrok.database
