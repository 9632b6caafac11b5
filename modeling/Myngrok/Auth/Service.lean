import Myngrok.Sql.Table

open golang

namespace myngrok.auth

def errInvalidCredentials : Error := lit "invalid credentials"

def errUnauthorized : Error := lit "unauthorized"

structure User where
  id : GoString
  email : GoString
  deriving DecidableEq

structure Tokens where
  accessToken : GoString
  refreshToken : GoString
  refreshExpiresAt : Time
  deriving DecidableEq

inductive UserStatus where
  | active
  | disabled
  | deleted
  deriving DecidableEq

/-- A row of the table `users`, by its `id`; the columns with times are left out. -/
structure UserRow where
  email : GoString
  passwordHash : GoString
  status : UserStatus
  deriving DecidableEq

/-- A row of the table `refresh_tokens`, by its `token_hash`, which is `UNIQUE`. -/
structure RefreshTokenRow where
  userID : GoString
  expiresAt : Time
  revokedAt : Option Time
  deriving DecidableEq

structure Database where
  users : sql.Table GoString UserRow
  refreshTokens : sql.Table GoString RefreshTokenRow
  deriving DecidableEq

/-- The service: the keyed hash of refresh tokens, the comparison of a password with its hash, and the time that refresh
    tokens live. -/
structure Service where
  hashToken : GoString → GoString
  compareHashAndPassword : GoString → GoString → Bool
  refreshTTL : Duration

/-- What a call meets with: the time, the errors of its statements, and the access token and the refresh token that
    `issue` signs and draws. -/
structure Circumstances where
  now : Time
  query : Option Error
  update : Option Error
  generated : Except Error (GoString × GoString)
  store : Option Error

def normalizeEmail (email : GoString) : GoString := strings.toLower (strings.trimSpace email)

/-- The `SELECT` of `Refresh`. -/
def selectUser (db : Database) (tokenHash : GoString) (now : Time) : Option User :=
  match db.refreshTokens.lookup tokenHash with
  | none => none
  | some row =>
    if row.revokedAt = none ∧ row.expiresAt > now then
      match db.users.lookup row.userID with
      | none => none
      | some user => if user.status = .active then some { id := row.userID, email := user.email } else none
    else none

/-- The `UPDATE` of `Refresh`. -/
def revokeUsed (db : Database) (tokenHash : GoString) (now : Time) : Database :=
  { db with refreshTokens := sql.update db.refreshTokens (fun key _ => key = tokenHash) fun row =>
    { row with revokedAt := some now } }

/-- The `UPDATE` of `Logout`. -/
def revokeUnused (db : Database) (tokenHash : GoString) (now : Time) : Database :=
  { db with refreshTokens := sql.update db.refreshTokens (fun key row => key = tokenHash ∧ row.revokedAt = none) fun row =>
    { row with revokedAt := some now } }

namespace Service

def issue (s : Service) (db : Database) (userID : GoString) (c : Circumstances) : Except Error Tokens × Database :=
  match c.generated with
  | .error err => (.error err, db)
  | .ok (accessToken, refreshToken) =>
    let expires := c.now + s.refreshTTL
    match c.store with
    | some err => (.error (lit "store refresh token: " ++ err), db)
    | none =>
      if s.hashToken refreshToken ∈ db.refreshTokens then
        (.error (lit "store refresh token: " ++ sql.duplicateKey), db)
      else
        let row := { userID, expiresAt := expires, revokedAt := none }
        (.ok { accessToken, refreshToken, refreshExpiresAt := expires },
          { db with refreshTokens := db.refreshTokens.insert (s.hashToken refreshToken) row })

/-- The rows that the `SELECT` of `Login` is about: `email` is `UNIQUE`. -/
def findUser (db : Database) (email : GoString) : Option (GoString × UserRow) :=
  match sql.select db.users fun user => user.email = email with
  | [] => none
  | id :: _ => (db.users.lookup id).map fun user => (id, user)

def login (s : Service) (db : Database) (email password : GoString) (c : Circumstances) :
    Except Error (User × Tokens) × Database :=
  match c.query, findUser db (normalizeEmail email) with
  | none, some (id, user) =>
    if user.status ≠ .active ∨ s.compareHashAndPassword user.passwordHash password = false then
      (.error errInvalidCredentials, db)
    else
      match c.update with
      | some err => (.error (lit "update login: " ++ err), db)
      | none =>
        match s.issue db id c with
        | (.error err, db) => (.error err, db)
        | (.ok tokens, db) => (.ok ({ id, email := user.email }, tokens), db)
  | _, _ => (.error errInvalidCredentials, db)

def refresh (s : Service) (db : Database) (raw : GoString) (c : Circumstances) :
    Except Error (User × Tokens) × Database :=
  if raw = [] then (.error errUnauthorized, db)
  else
    match c.query, selectUser db (s.hashToken raw) c.now with
    | none, some user =>
      match c.update with
      | some err => (.error (lit "revoke used token: " ++ err), db)
      | none =>
        match s.issue (revokeUsed db (s.hashToken raw) c.now) user.id c with
        | (.error err, db) => (.error err, db)
        | (.ok tokens, db) => (.ok (user, tokens), db)
    | _, _ => (.error errUnauthorized, db)

def logout (s : Service) (db : Database) (raw : GoString) (c : Circumstances) : Option Error × Database :=
  if raw = [] then (none, db)
  else
    match c.update with
    | some err => (some err, db)
    | none => (none, revokeUnused db (s.hashToken raw) c.now)

end Service

/-- No token with the hash is left that `Refresh` would accept. -/
def Spent (db : Database) (tokenHash : GoString) : Prop :=
  ∀ row, db.refreshTokens.lookup tokenHash = some row → row.revokedAt ≠ none

variable {s : Service} {db : Database} {tokenHash : GoString} {now : Time} {c : Circumstances}

theorem Spent.selectUser_eq_none (h : Spent db tokenHash) : selectUser db tokenHash now = none := by
  rw [selectUser]
  split
  · rfl
  · rename_i row hlookup
    rw [if_neg fun hvalid => h row hlookup hvalid.1]

theorem lookup_revokeUsed (db : Database) (tokenHash : GoString) (now : Time) (key : GoString) :
    (revokeUsed db tokenHash now).refreshTokens.lookup key = (db.refreshTokens.lookup key).map fun row =>
      if key = tokenHash then { row with revokedAt := some now } else row := by
  rw [revokeUsed, sql.lookup_update]
  simp only [decide_eq_true_eq]

theorem lookup_revokeUnused (db : Database) (tokenHash : GoString) (now : Time) (key : GoString) :
    (revokeUnused db tokenHash now).refreshTokens.lookup key = (db.refreshTokens.lookup key).map fun row =>
      if key = tokenHash ∧ row.revokedAt = none then { row with revokedAt := some now } else row := by
  rw [revokeUnused, sql.lookup_update]
  simp only [decide_eq_true_eq]

theorem spent_revokeUsed (db : Database) (tokenHash : GoString) (now : Time) :
    Spent (revokeUsed db tokenHash now) tokenHash := by
  intro row hlookup
  rw [lookup_revokeUsed, Option.map_eq_some_iff] at hlookup
  obtain ⟨old, _, rfl⟩ := hlookup
  rw [if_pos rfl]
  exact nofun

theorem spent_revokeUnused (db : Database) (tokenHash : GoString) (now : Time) :
    Spent (revokeUnused db tokenHash now) tokenHash := by
  intro row hlookup
  rw [lookup_revokeUnused, Option.map_eq_some_iff] at hlookup
  obtain ⟨old, _, rfl⟩ := hlookup
  split
  · exact nofun
  · rename_i hrevoked
    exact fun hnone => hrevoked ⟨rfl, hnone⟩

theorem Spent.revokeUsed (h : Spent db tokenHash) (other : GoString) : Spent (revokeUsed db other now) tokenHash := by
  intro row hlookup
  rw [lookup_revokeUsed, Option.map_eq_some_iff] at hlookup
  obtain ⟨old, hold, rfl⟩ := hlookup
  split
  · exact nofun
  · exact h old hold

theorem Spent.revokeUnused (h : Spent db tokenHash) (other : GoString) :
    Spent (revokeUnused db other now) tokenHash := by
  intro row hlookup
  rw [lookup_revokeUnused, Option.map_eq_some_iff] at hlookup
  obtain ⟨old, hold, rfl⟩ := hlookup
  split
  · exact nofun
  · exact h old hold

theorem Spent.logout (h : Spent db tokenHash) (raw : GoString) : Spent (s.logout db raw c).2 tokenHash := by
  simp only [Service.logout]
  split
  · exact h
  · split
    · exact h
    · exact h.revokeUnused _

/-- `issue` stores one token under a hash that was not in use, or does nothing. -/
theorem issue_cases (s : Service) (db : Database) (userID : GoString) (c : Circumstances) :
    (∃ err, s.issue db userID c = (.error err, db)) ∨
      ∃ tokens row, c.generated = .ok (tokens.accessToken, tokens.refreshToken) ∧
        s.hashToken tokens.refreshToken ∉ db.refreshTokens ∧
        s.issue db userID c = (.ok tokens,
          { db with refreshTokens := db.refreshTokens.insert (s.hashToken tokens.refreshToken) row }) := by
  simp only [Service.issue]
  split
  · exact .inl ⟨_, rfl⟩
  · rename_i accessToken refreshToken hgenerated
    split
    · exact .inl ⟨_, rfl⟩
    · split
      · exact .inl ⟨_, rfl⟩
      · rename_i hunused
        exact .inr ⟨_, _, hgenerated, hunused, rfl⟩

/-- What has been spent stays spent, unless a token with the same hash is stored for the first time. -/
theorem Spent.issue (h : Spent db tokenHash) (userID : GoString) (hnew : tokenHash ∈ db.refreshTokens ∨
      ∀ accessToken refreshToken, c.generated = .ok (accessToken, refreshToken) → s.hashToken refreshToken ≠ tokenHash)
    : Spent (s.issue db userID c).2 tokenHash := by
  obtain ⟨err, hissue⟩ | ⟨tokens, row, hgenerated, hunused, hissue⟩ := issue_cases s db userID c
  · rw [hissue]
    exact h
  · rw [hissue]
    intro found hlookup
    rw [Map.lookup_insert_eq, if_neg] at hlookup
    · exact h found hlookup
    · rintro rfl
      obtain hmem | hother := hnew
      · exact hunused hmem
      · exact hother _ _ hgenerated rfl

end myngrok.auth
