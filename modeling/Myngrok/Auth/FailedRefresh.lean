import Myngrok.Auth.Service

open golang

namespace myngrok.auth

/-- The texts that PostgreSQL takes for a column: `text` needs valid UTF-8 without NUL, `inet` an address. An IPv6
    address with a zone is none. -/
structure Postgres where
  text : GoString → Bool
  inet : GoString → Bool

/-- The error of the `INSERT` of `issue`, whose last value is `NULLIF($5,'')::inet`: that of the connection, or what
    PostgreSQL says of the parameters. -/
def Postgres.insertError (pg : Postgres) (userAgent ip : GoString) (store : Option Error) : Option Error :=
  match store with
  | some err => some err
  | none =>
    if !pg.text userAgent || !pg.text ip then some (lit "ERROR: invalid byte sequence for encoding \"UTF8\"")
    else if ip ≠ [] ∧ pg.inet ip = false then
      some (lit "ERROR: invalid input syntax for type inet: \"" ++ ip ++ lit "\" (SQLSTATE 22P02)")
    else none

/-- `remoteIP`, for the remote address of a request. -/
def remoteIP (remoteAddr : GoString) : GoString :=
  match net.splitHostPort remoteAddr with
  | some (host, _) => host
  | none => []

/-- `Refresh` with the user agent and the address, which only the `INSERT` looks at. -/
def Service.refreshFrom (s : Service) (pg : Postgres) (db : Database) (raw userAgent ip : GoString) (c : Circumstances) :
    Except Error (User × Tokens) × Database :=
  s.refresh db raw { c with store := pg.insertError userAgent ip c.store }

/-- The tokens that `Refresh` accepts at a time. -/
def Accepted (s : Service) (db : Database) (now : Time) (raw : GoString) : Prop :=
  raw ≠ [] ∧ (selectUser db (s.hashToken raw) now).isSome = true

/-- What makes `issue` fail: no token can be made, the `INSERT` fails, or the hash of the new token is in use. -/
def IssueFails (s : Service) (db : Database) (c : Circumstances) : Prop :=
  (∃ err, c.generated = .error err) ∨ c.store ≠ none ∨
    ∃ accessToken refreshToken, c.generated = .ok (accessToken, refreshToken) ∧
      s.hashToken refreshToken ∈ db.refreshTokens

variable {s : Service} {db : Database} {raw : GoString} {c : Circumstances}

theorem issue_of_fails (userID : GoString) (hfails : IssueFails s db c) :
    ∃ err, s.issue db userID c = (.error err, db) := by
  obtain hissue | ⟨tokens, row, hgenerated, hunused, hissue⟩ := issue_cases s db userID c
  · exact hissue
  · exfalso
    rcases hfails with ⟨err, herr⟩ | hstore | ⟨accessToken, refreshToken, hdrawn, hused⟩
    · rw [hgenerated] at herr
      cases herr
    · obtain ⟨err, hstore⟩ := Option.ne_none_iff_exists'.mp hstore
      rw [Service.issue, hgenerated] at hissue
      simp only [hstore] at hissue
      cases hissue
    · rw [hgenerated] at hdrawn
      cases hdrawn
      exact hunused hused

theorem issue_of_not_fails (userID : GoString) (hfails : ¬IssueFails s db c) :
    ∃ tokens db', s.issue db userID c = (.ok tokens, db') := by
  obtain ⟨hgenerated, hstore, hunused⟩ : (∃ drawn, c.generated = .ok drawn) ∧ c.store = none ∧
      ∀ accessToken refreshToken, c.generated = .ok (accessToken, refreshToken) →
        s.hashToken refreshToken ∉ db.refreshTokens := by
    refine ⟨?_, ?_, fun accessToken refreshToken hdrawn hused => hfails (.inr (.inr ⟨_, _, hdrawn, hused⟩))⟩
    · cases hgenerated : c.generated with
      | error err => exact absurd (.inl ⟨err, hgenerated⟩) hfails
      | ok drawn => exact ⟨drawn, rfl⟩
    · by_contra hstore
      exact hfails (.inr (.inl hstore))
  obtain ⟨⟨accessToken, refreshToken⟩, hdrawn⟩ := hgenerated
  rw [Service.issue, hdrawn]
  simp only [hstore]
  rw [if_neg (hunused _ _ hdrawn)]
  exact ⟨_, _, rfl⟩

theorem mem_revokeUsed (tokenHash key : GoString) (now : Time) :
    key ∈ (revokeUsed db tokenHash now).refreshTokens ↔ key ∈ db.refreshTokens := by
  rw [← AList.lookup_isSome, lookup_revokeUsed, Option.isSome_map, AList.lookup_isSome]

/-- A call that gets past its `UPDATE` and then fails. -/
def Consumes (s : Service) (db : Database) (raw : GoString) (c : Circumstances) : Prop :=
  Accepted s db c.now raw ∧ c.query = none ∧ c.update = none ∧ IssueFails s db c

/-- The outcomes of `Refresh`: nothing has happened, the token is gone, or it is replaced. -/
theorem refresh_cases (s : Service) (db : Database) (raw : GoString) (c : Circumstances) :
    (¬Consumes s db raw c ∧ ∃ err, s.refresh db raw c = (.error err, db)) ∨
      (Consumes s db raw c ∧ ∃ err, s.refresh db raw c = (.error err, revokeUsed db (s.hashToken raw) c.now)) ∨
      (¬Consumes s db raw c ∧ ∃ user tokens db', s.refresh db raw c = (.ok (user, tokens), db')) := by
  rw [Service.refresh]
  by_cases hraw : raw = []
  · rw [if_pos hraw]
    exact .inl ⟨fun hconsumes => hconsumes.1.1 hraw, _, rfl⟩
  rw [if_neg hraw]
  cases hquery : c.query with
  | some err =>
    refine .inl ⟨fun hconsumes => ?_, _, rfl⟩
    have hdone := hconsumes.2.1
    rw [hquery] at hdone
    cases hdone
  | none =>
    cases hselect : selectUser db (s.hashToken raw) c.now with
    | none =>
      refine .inl ⟨fun hconsumes => ?_, _, rfl⟩
      have haccepted := hconsumes.1.2
      rw [hselect] at haccepted
      cases haccepted
    | some user =>
      dsimp only
      cases hupdate : c.update with
      | some err =>
        refine .inl ⟨fun hconsumes => ?_, _, rfl⟩
        have hdone := hconsumes.2.2.1
        rw [hupdate] at hdone
        cases hdone
      | none =>
        dsimp only
        have hsame : IssueFails s (revokeUsed db (s.hashToken raw) c.now) c ↔ IssueFails s db c := by
          simp only [IssueFails, mem_revokeUsed]
        by_cases hfails : IssueFails s db c
        · obtain ⟨err, hissue⟩ := issue_of_fails user.id (hsame.mpr hfails)
          rw [hissue]
          exact .inr (.inl ⟨⟨⟨hraw, by rw [hselect]; rfl⟩, hquery, hupdate, hfails⟩, err, rfl⟩)
        · obtain ⟨tokens, db', hissue⟩ := issue_of_not_fails user.id (mt hsame.mp hfails)
          rw [hissue]
          exact .inr (.inr ⟨fun hconsumes => hfails hconsumes.2.2.2, user, tokens, db', rfl⟩)

/-- A failed `Refresh` leaves the tokens that are accepted as they were, unless it fails between its `UPDATE` and the
    end of its `INSERT`: then the token that was presented is gone. -/
theorem failed_refresh_keeps_iff (s : Service) (pg : Postgres) (db : Database) (raw userAgent ip : GoString)
    (c : Circumstances) :
    ((∃ err, (s.refreshFrom pg db raw userAgent ip c).1 = .error err) →
      ∀ now other, Accepted s (s.refreshFrom pg db raw userAgent ip c).2 now other ↔ Accepted s db now other) ↔
    ¬Consumes s db raw { c with store := pg.insertError userAgent ip c.store } := by
  rw [Service.refreshFrom]
  obtain ⟨hkeeps, err, hrefresh⟩ | ⟨hconsumes, err, hrefresh⟩ | ⟨hkeeps, user, tokens, db', hrefresh⟩ :=
    refresh_cases s db raw { c with store := pg.insertError userAgent ip c.store }
  · rw [hrefresh]
    exact iff_of_true (fun _ _ _ => Iff.rfl) hkeeps
  · rw [hrefresh]
    refine iff_of_false (fun hsame => ?_) (not_not.mpr hconsumes)
    have hstill := (hsame ⟨err, rfl⟩ c.now raw).mpr hconsumes.1
    have hspent : selectUser (revokeUsed db (s.hashToken raw) c.now) (s.hashToken raw) c.now = none :=
      (spent_revokeUsed db (s.hashToken raw) c.now).selectUser_eq_none
    have hselect := hstill.2
    rw [hspent] at hselect
    cases hselect
  · rw [hrefresh]
    refine iff_of_true ?_ hkeeps
    rintro ⟨err, herr⟩
    cases herr

section sample

def zoneService : Service where
  hashToken := fun raw => lit "hash of " ++ raw
  compareHashAndPassword := fun _ _ => true
  refreshTTL := 60 * minute

/-- A server that knows at least that a zone does not belong into an `inet`. -/
def zonePostgres : Postgres where
  text := fun _ => true
  inet := fun address => decide (0x25 ∉ address)

/-- One user with one token. -/
def zoneDatabase : Database where
  users := (∅ : sql.Table GoString UserRow).insert (lit "user")
    { email := lit "user@example.com", passwordHash := [], status := .active }
  refreshTokens := (∅ : sql.Table GoString RefreshTokenRow).insert (lit "hash of token")
    { userID := lit "user", expiresAt := 60 * minute, revokedAt := none }

/-- Nothing goes wrong with the connection to the database, or with the new tokens. -/
def zoneCircumstances : Circumstances where
  now := minute
  query := none
  update := none
  generated := .ok (lit "jwt", lit "next")
  store := none

/-- A client with a link-local address loses its token: the zone is part of the address that goes into the `INSERT`. -/
theorem token_lost_to_zone :
    remoteIP (lit "[fe80::1%eth0]:50000") = lit "fe80::1%eth0" ∧
      Accepted zoneService zoneDatabase minute (lit "token") ∧
      (∃ err, (zoneService.refreshFrom zonePostgres zoneDatabase (lit "token") [] (lit "fe80::1%eth0")
        zoneCircumstances).1 = .error err) ∧
      ∀ now, ¬Accepted zoneService (zoneService.refreshFrom zonePostgres zoneDatabase (lit "token") []
        (lit "fe80::1%eth0") zoneCircumstances).2 now (lit "token") := by
  have haccepted : Accepted zoneService zoneDatabase minute (lit "token") := ⟨by decide, by decide +kernel⟩
  have hconsumes : Consumes zoneService zoneDatabase (lit "token")
      { zoneCircumstances with store := zonePostgres.insertError [] (lit "fe80::1%eth0") none } :=
    ⟨haccepted, rfl, rfl, .inr (.inl (by decide +kernel))⟩
  obtain ⟨hkeeps, _⟩ | ⟨_, err, hrefresh⟩ | ⟨hkeeps, _⟩ := refresh_cases zoneService zoneDatabase (lit "token")
    { zoneCircumstances with store := zonePostgres.insertError [] (lit "fe80::1%eth0") none }
  · exact absurd hconsumes hkeeps
  · refine ⟨by decide +kernel, haccepted, ⟨err, congrArg Prod.fst hrefresh⟩, ?_⟩
    intro now hstill
    have hselect := hstill.2
    rw [Service.refreshFrom, show zoneCircumstances.store = none from rfl, hrefresh,
      (spent_revokeUsed zoneDatabase _ _).selectUser_eq_none] at hselect
    cases hselect
  · exact absurd hconsumes hkeeps

end sample

end myngrok.auth
