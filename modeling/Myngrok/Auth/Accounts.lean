import Mathlib.Data.List.Infix
import Myngrok.Auth.Jwt
import Myngrok.Transition.Run

open golang

namespace myngrok.auth

def errEmailTaken : Error := lit "email is already registered"

/-- `Time.Unix`. -/
def unix (t : Time) : Int64 := .ofInt (t / second)

/-- The service with the code, the secret and the lifetime of its access tokens. -/
structure AccessService extends Service where
  hmac : Bytes → Bytes → Bytes
  accessSecret : Bytes
  accessTTL : Duration

def validEmail (email : GoString) : Bool :=
  email.length ≤ 320 && email.count 0x40 == 1 && !strings.hasPrefix email (lit "@") &&
    !strings.hasSuffix email (lit "@")

/-- The `INSERT` of `Register`, with the ID that a new row gets and the error of the statement, if it fails for another
    reason than the email. -/
def insertUser (db : Database) (email passwordHash id : GoString) (failure : Option Error) :
    Except Error User × Database :=
  match failure with
  | some err =>
    (.error (if lit "users_email_key" <:+: err then errEmailTaken else lit "create user: " ++ err), db)
  | none =>
    if sql.select db.users (fun user => user.email = email) ≠ [] then (.error errEmailTaken, db)
    else if id ∈ db.users then (.error (lit "create user: " ++ sql.duplicateKey), db)
    else (.ok { id, email }, { db with users := db.users.insert id { email, passwordHash, status := .active } })

/-- `Register`, with what `bcrypt.GenerateFromPassword` returns. -/
def register (db : Database) (email password : GoString) (hash : Except Error GoString) (id : GoString)
    (failure : Option Error) : Except Error User × Database :=
  let email := normalizeEmail email
  if validEmail email = false ∨ password.length < 10 then (.error (lit "invalid registration data"), db)
  else
    match hash with
    | .error err => (.error (lit "hash password: " ++ err), db)
    | .ok hash => insertUser db email hash id failure

/-- The two times that `issue` reads for an access token. -/
structure Signing where
  issuedAt : Time
  expiresFrom : Time

namespace AccessService

/-- The claims that `issue` signs for a user. -/
def claims (s : AccessService) (userID : GoString) (signing : Signing) : Claims :=
  { subject := userID, type := lit "access", issuedAt := unix signing.issuedAt
    expiresAt := unix (signing.expiresFrom + s.accessTTL) }

/-- What `issue` makes out of the refresh token that is drawn. -/
def generated (s : AccessService) (userID : GoString) (signing : Signing) (raw : Except Error GoString) :
    Except Error (GoString × GoString) :=
  raw.map fun refreshToken => (signJWT s.hmac (s.claims userID signing) s.accessSecret, refreshToken)

/-- `UserFromAccessToken`, with the error of its query. -/
def userFromAccessToken (s : AccessService) (db : Database) (token : GoString) (now : Time) (query : Option Error) :
    Except Error User :=
  match verifyJWT s.hmac token s.accessSecret with
  | .error _ => .error errUnauthorized
  | .ok claims =>
    if claims.type ≠ lit "access" ∨ claims.subject = [] ∨ claims.expiresAt < unix now then .error errUnauthorized
    else
      match query with
      | some err => .error (lit "load current user: " ++ err)
      | none =>
        match db.users.lookup claims.subject with
        | none => .error errUnauthorized
        | some user =>
          if user.status = .active then .ok { id := claims.subject, email := user.email } else .error errUnauthorized

/-- Who is found for a token: the user whom its claims name, if they are in force. -/
theorem userFromAccessToken_eq_ok {s : AccessService} {db : Database} {token : GoString} {now : Time}
    {query : Option Error} {user : User} :
    s.userFromAccessToken db token now query = .ok user ↔
      (∃ claims, verifyJWT s.hmac token s.accessSecret = .ok claims ∧ claims.type = lit "access" ∧
        claims.subject ≠ [] ∧ ¬ claims.expiresAt < unix now ∧ claims.subject = user.id) ∧ query = none ∧
      ∃ row, db.users.lookup user.id = some row ∧ row.status = .active ∧ row.email = user.email := by
  constructor
  · intro h
    unfold userFromAccessToken at h
    split at h
    · cases h
    · rename_i claims hverify
      split at h
      · cases h
      · rename_i hforce
        obtain ⟨htype, hsubject, hexpires⟩ : claims.type = lit "access" ∧ claims.subject ≠ [] ∧
            ¬ claims.expiresAt < unix now := by
          simpa only [not_or, not_not, ne_eq] using hforce
        cases query with
        | some err => cases h
        | none =>
          simp only at h
          split at h
          · cases h
          · rename_i row hrow
            split at h
            · rename_i hactive
              cases h
              exact ⟨⟨claims, hverify, htype, hsubject, hexpires, rfl⟩, rfl, row, hrow, hactive, rfl⟩
            · cases h
  · obtain ⟨id, email⟩ := user
    rintro ⟨⟨claims, hverify, htype, hsubject, hexpires, rfl⟩, rfl, row, hrow, hactive, rfl⟩
    have hforce : ¬ (claims.type ≠ lit "access" ∨ claims.subject = [] ∨ claims.expiresAt < unix now) := by
      simpa only [not_or, not_not, ne_eq] using ⟨htype, hsubject, hexpires⟩
    simp only [userFromAccessToken, hverify, if_neg hforce, hrow, hactive, if_pos]

end AccessService

/-- Where a call of `Login` stands, past its `SELECT` and the comparison of the password or past its `UPDATE`; where one
    of `Refresh` stands, past its `SELECT` or its `UPDATE`; or what either has returned. -/
inductive AccountCall where
  | found (user : User)
  | updated (user : User)
  | selected (raw : GoString) (user : User)
  | revoked (user : User)
  | returned (result : Except Error (User × Tokens))

/-- The database with all calls of `Login` and `Refresh`, and the claims of every access token that has been signed. -/
structure Accounts where
  db : Database
  calls : Map Nat AccountCall
  signed : List Claims

/-- The statements of all calls. -/
inductive AccountEvent where
  | register (email password : GoString) (hash : Except Error GoString) (id : GoString) (failure : Option Error)
  | find (call : Nat) (email password : GoString) (query : Option Error)
  | update (call : Nat) (failure : Option Error)
  | select (call : Nat) (raw : GoString) (now : Time) (query : Option Error)
  | revokeUsed (call : Nat) (now : Time) (failure : Option Error)
  | issue (call : Nat) (signing : Signing) (raw : Except Error GoString) (now : Time) (store : Option Error)
  | logout (raw : GoString) (now : Time) (failure : Option Error)

/-- The user that the call has got to know. -/
def AccountCall.user : AccountCall → Option User
  | .found user => some user
  | .updated user => some user
  | .selected _ user => some user
  | .revoked user => some user
  | .returned (.ok (user, _)) => some user
  | .returned (.error _) => none

/-- The user for whom the call issues tokens next. -/
def AccountCall.issues : AccountCall → Option User
  | .updated user => some user
  | .revoked user => some user
  | _ => none

namespace Accounts

def start : Accounts := { db := { users := ∅, refreshTokens := ∅ }, calls := ∅, signed := [] }

def set (s : Accounts) (call : Nat) (state : AccountCall) : Accounts :=
  { s with calls := s.calls.insert call state }

/-- The `SELECT` of `Login`, and its comparison of the password. -/
def find (service : AccessService) (db : Database) (email password : GoString) (query : Option Error) : AccountCall :=
  match query, Service.findUser db (normalizeEmail email) with
  | none, some (id, user) =>
    if user.status ≠ .active ∨ service.compareHashAndPassword user.passwordHash password = false then
      .returned (.error errInvalidCredentials)
    else .found { id, email := user.email }
  | _, _ => .returned (.error errInvalidCredentials)

/-- The `SELECT` of `Refresh`. -/
def select (service : AccessService) (db : Database) (raw : GoString) (now : Time) (query : Option Error) :
    AccountCall :=
  if raw = [] then .returned (.error errUnauthorized)
  else
    match query, selectUser db (service.hashToken raw) now with
    | none, some user => .selected raw user
    | _, _ => .returned (.error errUnauthorized)

/-- One statement. The IDs of users are UUIDs, which the database writes in ASCII. -/
def step (service : AccessService) (s : Accounts) : AccountEvent → Option Accounts
  | .register email password hash id failure =>
    if id ≠ [] ∧ utf8.validString id then some { s with db := (auth.register s.db email password hash id failure).2 }
    else none
  | .find call email password query =>
    if call ∈ s.calls then none else some (s.set call (find service s.db email password query))
  | .update call failure =>
    match s.calls.lookup call with
    | some (.found user) =>
      match failure with
      | some err => some (s.set call (.returned (.error (lit "update login: " ++ err))))
      | none => some (s.set call (.updated user))
    | _ => none
  | .select call raw now query =>
    if call ∈ s.calls then none else some (s.set call (select service s.db raw now query))
  | .revokeUsed call now failure =>
    match s.calls.lookup call with
    | some (.selected raw user) =>
      match failure with
      | some err => some (s.set call (.returned (.error (lit "revoke used token: " ++ err))))
      | none => some ({ s with db := auth.revokeUsed s.db (service.hashToken raw) now }.set call (.revoked user))
    | _ => none
  | .issue call signing raw now store =>
    match (s.calls.lookup call).bind AccountCall.issues with
    | some user =>
      let c := { now, query := none, update := none, generated := service.generated user.id signing raw, store }
      let (result, db) := service.issue s.db user.id c
      some ({ s with db, signed := service.claims user.id signing :: s.signed }.set call
        (.returned (result.map fun tokens => (user, tokens))))
    | none => none
  | .logout raw now failure =>
    let c := { now, query := none, update := failure, generated := .error [], store := none }
    some { s with db := (service.logout s.db raw c).2 }

section

variable (service : AccessService) (s : Accounts)

/-- The ways a step can go. -/
inductive Step : AccountEvent → Accounts → Prop where
  | rejected {email password hash id failure} : Step (.register email password hash id failure) s
  | registered {email} {password : GoString} {hash id} (hid : id ≠ []) (hvalid : utf8.validString id = true)
      (hlength : 10 ≤ password.length) (hnew : id ∉ s.db.users) :
    Step (.register email password (.ok hash) id none)
      { s with db.users := s.db.users.insert id
                { email := normalizeEmail email, passwordHash := hash, status := .active } }
  | failed {e call err} : Step e (s.set call (.returned (.error err)))
  | found {call email password id} {row : UserRow} (hrow : s.db.users.lookup id = some row)
      (hemail : row.email = normalizeEmail email)
      (hpassword : service.compareHashAndPassword row.passwordHash password = true) :
    Step (.find call email password none) (s.set call (.found { id, email := row.email }))
  | updated {call user} (hphase : s.calls.lookup call = some (.found user)) :
    Step (.update call none) (s.set call (.updated user))
  | selected {call raw now user} (hselect : selectUser s.db (service.hashToken raw) now = some user) :
    Step (.select call raw now none) (s.set call (.selected raw user))
  | revoked {call raw now user} (hphase : s.calls.lookup call = some (.selected raw user)) :
    Step (.revokeUsed call now none)
      ({ s with db := auth.revokeUsed s.db (service.hashToken raw) now }.set call (.revoked user))
  | unissued {call signing raw now store} {state : AccountCall} {user : User} {err}
      (hphase : s.calls.lookup call = some state) (hissues : state.issues = some user) :
    Step (.issue call signing raw now store)
      ({ s with signed := service.claims user.id signing :: s.signed }.set call (.returned (.error err)))
  | issued {call signing raw now store} {state : AccountCall} {user : User} {tokens : Tokens} {row : RefreshTokenRow}
      (hphase : s.calls.lookup call = some state) (hissues : state.issues = some user) (hrow : row.userID = user.id)
      (haccess : tokens.accessToken = signJWT service.hmac (service.claims user.id signing) service.accessSecret) :
    Step (.issue call signing raw now store)
      ({ s with db.refreshTokens := s.db.refreshTokens.insert (service.hashToken tokens.refreshToken) row
                signed := service.claims user.id signing :: s.signed }.set call (.returned (.ok (user, tokens))))
  | logout {raw now failure db} (hdb : db = s.db ∨ db = revokeUnused s.db (service.hashToken raw) now) :
    Step (.logout raw now failure) { s with db }

end

variable {service : AccessService} {s next : Accounts} {e : AccountEvent}

/-- `issue` stores a token of the user whom it is called for, or does nothing. -/
theorem issue_user (service : Service) (db : Database) (userID : GoString) (c : Circumstances) :
    (∃ err, service.issue db userID c = (.error err, db)) ∨
      ∃ tokens row, c.generated = .ok (tokens.accessToken, tokens.refreshToken) ∧ row.userID = userID ∧
        service.issue db userID c = (.ok tokens,
          { db with refreshTokens := db.refreshTokens.insert (service.hashToken tokens.refreshToken) row }) := by
  simp only [Service.issue]
  split
  · exact .inl ⟨_, rfl⟩
  · rename_i hgenerated
    split
    · exact .inl ⟨_, rfl⟩
    · split
      · exact .inl ⟨_, rfl⟩
      · exact .inr ⟨_, _, hgenerated, rfl, rfl⟩

theorem register_cases (s : Accounts) {email password id : GoString} (hash : Except Error GoString)
    (failure : Option Error) (hid : id ≠ []) (hvalid : utf8.validString id = true) :
    Step service s (.register email password hash id failure)
      { s with db := (auth.register s.db email password hash id failure).2 } := by
  unfold auth.register insertUser
  dsimp only
  split
  · exact .rejected
  · rename_i hlength
    split
    · exact .rejected
    · split
      · exact .rejected
      · split
        · exact .rejected
        · split
          · exact .rejected
          · rename_i hnew
            exact .registered hid hvalid (Nat.not_lt.mp fun h => hlength (.inr h)) hnew

theorem find_cases (s : Accounts) (call : Nat) (email password : GoString) (query : Option Error) :
    Step service s (.find call email password query) (s.set call (find service s.db email password query)) := by
  unfold find
  split
  · rename_i id row hfind
    split
    · exact .failed
    · rename_i hmatches
      obtain ⟨_, hpassword⟩ := not_or.mp hmatches
      unfold Service.findUser at hfind
      split at hfind
      · cases hfind
      · rename_i first rest hselect
        obtain ⟨found, hfound, hpair⟩ := Option.map_eq_some_iff.mp hfind
        cases hpair
        have hmem := hselect ▸ List.mem_cons_self (a := id) (l := rest)
        obtain ⟨row', hrow', hemail⟩ := sql.mem_select.mp hmem
        rw [hfound] at hrow'
        cases hrow'
        exact .found hfound (of_decide_eq_true hemail) (Bool.not_eq_false _ ▸ hpassword)
  · exact .failed

theorem select_cases (s : Accounts) (call : Nat) (raw : GoString) (now : Time) (query : Option Error) :
    Step service s (.select call raw now query) (s.set call (select service s.db raw now query)) := by
  unfold select
  split
  · exact .failed
  · split
    · rename_i hselect
      exact .selected hselect
    · exact .failed

theorem step_cases (h : s.step service e = some next) : s.Step service e next := by
  cases e with
  | register email password hash id failure =>
    simp only [step] at h
    split at h <;> cases h
    rename_i hid
    exact register_cases s hash failure hid.1 hid.2
  | find call email password query =>
    simp only [step] at h
    split at h <;> cases h
    exact find_cases s call email password query
  | update call failure =>
    simp only [step] at h
    split at h
    · rename_i hphase
      split at h <;> cases h
      · exact .failed
      · exact .updated hphase
    · cases h
  | select call raw now query =>
    simp only [step] at h
    split at h <;> cases h
    exact select_cases s call raw now query
  | revokeUsed call now failure =>
    simp only [step] at h
    split at h
    · rename_i hphase
      split at h <;> cases h
      · exact .failed
      · exact .revoked hphase
    · cases h
  | issue call signing raw now store =>
    simp only [step] at h
    split at h
    · rename_i user hissues
      obtain ⟨state, hphase, hstate⟩ := Option.bind_eq_some_iff.mp hissues
      cases h
      obtain ⟨err, hissue⟩ | ⟨tokens, row, hgenerated, hrow, hissue⟩ := issue_user service.toService s.db user.id
        { now, query := none, update := none, generated := service.generated user.id signing raw, store }
      · rw [hissue]
        exact .unissued hphase hstate
      · rw [hissue]
        refine .issued hphase hstate hrow ?_
        cases raw with
        | error err => cases hgenerated
        | ok refreshToken => exact (Prod.mk.inj (Except.ok.inj hgenerated)).1.symm
    · cases h
  | logout raw now failure =>
    cases h
    refine .logout ?_
    unfold Service.logout
    split
    · exact .inl rfl
    · cases failure with
      | some err => exact .inl rfl
      | none => exact .inr rfl

end Accounts

end myngrok.auth
