import Myngrok.Auth.Refresh

open golang transition

namespace http

/-- The fields of a cookie that `SetCookie` is given here; `Path` is `/` always, and no domain is ever set. -/
structure Cookie where
  name : GoString
  value : GoString
  secure : Bool
  expires : Option Time
  maxAge : Int
  deriving DecidableEq

end http

namespace browser

structure StoredCookie where
  value : GoString
  expires : Option Time
  deriving DecidableEq

/-- The cookies that a browser has for one host. -/
abbrev Jar := Map GoString StoredCookie

/-- `Expires` is sent in whole seconds. -/
def wholeSeconds (t : Time) : Time := t - t % 1000000000

/-- A cookie whose name begins with `__Host-` is refused unless it is secure, and one with a negative age is deleted. -/
def receive (jar : Jar) (cookie : http.Cookie) : Jar :=
  if strings.hasPrefix cookie.name (lit "__Host-") ∧ cookie.secure = false then jar
  else if cookie.maxAge < 0 then jar.erase cookie.name
  else jar.insert cookie.name { value := cookie.value, expires := cookie.expires.map wholeSeconds }

/-- The value that is sent back under a name, until the cookie expires. -/
def send (jar : Jar) (now : Time) (name : GoString) : Option GoString :=
  match jar.lookup name with
  | some cookie => if cookie.expires.all (· > now) then some cookie.value else none
  | none => none

end browser

namespace myngrok.auth

open browser

def refreshCookieName : GoString := lit "refresh_token"

def secureRefreshCookieName : GoString := lit "__Host-refresh_token"

inductive Body where
  | error (code message : GoString)
  | session (accessToken : GoString) (user : User)
  | empty
  deriving DecidableEq

structure Reply where
  status : Int
  cookies : List http.Cookie
  body : Body
  deriving DecidableEq

structure HTTPHandler where
  service : Service
  secureCookies : Bool

/-- The requests of a browser. `allowed` is what the rate limiter says, and `credentials` what the body of the request
    decodes to. -/
inductive BrowserEvent where
  | login (allowed : Bool) (credentials : Option (GoString × GoString)) (c : Circumstances)
  | refresh (allowed : Bool) (c : Circumstances)
  | logout (c : Circumstances)

def BrowserEvent.now : BrowserEvent → Time
  | .login _ _ c => c.now
  | .refresh _ c => c.now
  | .logout c => c.now

def rateLimited : Reply :=
  { status := 429, cookies := [], body := .error (lit "RATE_LIMITED") (lit "Too many authentication attempts") }

namespace HTTPHandler

def refreshCookieName (h : HTTPHandler) : GoString :=
  if h.secureCookies then secureRefreshCookieName else auth.refreshCookieName

def setRefreshCookie (h : HTTPHandler) (t : Tokens) : List http.Cookie :=
  [{ name := h.refreshCookieName, value := t.refreshToken, secure := h.secureCookies, expires := some t.refreshExpiresAt
     maxAge := 0 }]

def clearRefreshCookie (h : HTTPHandler) : List http.Cookie :=
  [auth.refreshCookieName, secureRefreshCookieName].map fun name =>
    { name, value := [], secure := h.secureCookies, expires := none, maxAge := -1 }

def login (h : HTTPHandler) (db : Database) (credentials : Option (GoString × GoString)) (c : Circumstances) :
    Reply × Database :=
  match credentials with
  | none => ({ status := 400, cookies := [],
               body := .error (lit "INVALID_JSON") (lit "Request body must be valid JSON") }, db)
  | some (email, password) =>
    match h.service.login db email password c with
    | (.error _, db) => ({ status := 401, cookies := [],
                           body := .error (lit "INVALID_CREDENTIALS") (lit "Invalid email or password") }, db)
    | (.ok (user, tokens), db) => ({ status := 200, cookies := h.setRefreshCookie tokens,
                                     body := .session tokens.accessToken user }, db)

/-- `refresh`, with what `r.Cookie` returns for each name. -/
def refresh (h : HTTPHandler) (db : Database) (cookie : GoString → Option GoString) (c : Circumstances) :
    Reply × Database :=
  match h.service.refresh db ((cookie h.refreshCookieName).getD []) c with
  | (.error _, db) => ({ status := 401, cookies := h.clearRefreshCookie,
                         body := .error (lit "UNAUTHORIZED") (lit "Authentication required") }, db)
  | (.ok (user, tokens), db) => ({ status := 200, cookies := h.setRefreshCookie tokens,
                                   body := .session tokens.accessToken user }, db)

/-- `logout` asks for the cookie by one of the two names, whatever the mode. -/
def logout (h : HTTPHandler) (db : Database) (cookie : GoString → Option GoString) (c : Circumstances) :
    Reply × Database :=
  let db := match cookie (lit "refresh_token") with
    | some raw => (h.service.logout db raw c).2
    | none => db
  ({ status := 204, cookies := h.clearRefreshCookie, body := .empty }, db)

def serve (h : HTTPHandler) (db : Database) (cookie : GoString → Option GoString) : BrowserEvent → Reply × Database
  | .login allowed credentials c => if allowed then h.login db credentials c else (rateLimited, db)
  | .refresh allowed c => if allowed then h.refresh db cookie c else (rateLimited, db)
  | .logout c => h.logout db cookie c

end HTTPHandler

/-- One browser and the database behind the handler. -/
structure Visit where
  db : Database
  jar : Jar

def Visit.start (db : Database) : Visit := { db, jar := ∅ }

/-- A request, with the cookies that the browser has, and the cookies of the reply. -/
def Visit.step (h : HTTPHandler) (v : Visit) (e : BrowserEvent) : Option Visit :=
  let (reply, db) := h.serve v.db (send v.jar e.now) e
  some { db, jar := reply.cookies.foldl receive v.jar }

/-- A refresh token that the browser would send, under either name. -/
def Visit.Holds (v : Visit) (now : Time) (raw : GoString) : Prop :=
  send v.jar now refreshCookieName = some raw ∨ send v.jar now secureRefreshCookieName = some raw

/-- Once a logout has been answered, and its statement has succeeded, the token that the browser held is not accepted
    any more. -/
def EndsSession (h : HTTPHandler) : Prop :=
  ∀ db events v c next later final raw, run (Visit.step h) (.start db) events = some v → c.update = none →
    v.step h (.logout c) = some next → run (Visit.step h) next later = some final → v.Holds c.now raw →
    ∀ c', ∃ err, (h.service.refresh final.db raw c').1 = .error err

/-- The row of a token that has been revoked. -/
structure Revoked (db : Database) (tokenHash : GoString) : Prop where
  stored : tokenHash ∈ db.refreshTokens
  spent : Spent db tokenHash

/-- Tokens are only added, and what has been revoked stays revoked. -/
structure Grows (db next : Database) : Prop where
  stored : ∀ tokenHash ∈ db.refreshTokens, tokenHash ∈ next.refreshTokens
  revoked : ∀ tokenHash, Revoked db tokenHash → Revoked next tokenHash

variable {h : HTTPHandler} {s : Service} {db later : Database} {v next : Visit} {e : BrowserEvent}
  {events : List BrowserEvent} {raw : GoString} {c : Circumstances}

theorem Grows.refl : Grows db db := ⟨fun _ hmem => hmem, fun _ hrevoked => hrevoked⟩

theorem Grows.trans {last : Database} (h : Grows db later) (h' : Grows later last) : Grows db last :=
  ⟨fun _ hmem => h'.stored _ (h.stored _ hmem), fun _ hrevoked => h'.revoked _ (h.revoked _ hrevoked)⟩

theorem Grows.of_spent (hstored : ∀ tokenHash ∈ db.refreshTokens, tokenHash ∈ later.refreshTokens)
    (hspent : ∀ tokenHash ∈ db.refreshTokens, Spent db tokenHash → Spent later tokenHash) : Grows db later :=
  ⟨hstored, fun _ hrevoked => ⟨hstored _ hrevoked.stored, hspent _ hrevoked.stored hrevoked.spent⟩⟩

theorem mem_of_lookup_map {db later : Database} {set : GoString → RefreshTokenRow → RefreshTokenRow}
    (hlookup : ∀ key, later.refreshTokens.lookup key = (db.refreshTokens.lookup key).map (set key)) :
    ∀ tokenHash ∈ db.refreshTokens, tokenHash ∈ later.refreshTokens := by
  intro tokenHash hmem
  obtain ⟨row, hrow⟩ := (Map.mem_iff_lookup _ _).mp hmem
  rw [Map.mem_iff_lookup, hlookup, hrow]
  exact ⟨_, rfl⟩

theorem grows_revokeUsed (db : Database) (tokenHash : GoString) (now : Time) : Grows db (revokeUsed db tokenHash now) :=
  .of_spent (mem_of_lookup_map (lookup_revokeUsed db tokenHash now)) fun _ _ hspent => hspent.revokeUsed tokenHash

theorem grows_logout (s : Service) (db : Database) (raw : GoString) (c : Circumstances) :
    Grows db (s.logout db raw c).2 := by
  refine .of_spent ?_ fun _ _ hspent => hspent.logout raw
  simp only [Service.logout]
  split
  · exact fun _ hmem => hmem
  · split
    · exact fun _ hmem => hmem
    · exact mem_of_lookup_map (lookup_revokeUnused db (s.hashToken raw) c.now)

/-- What `issue` returns is in the table. -/
theorem grows_issue (s : Service) (db : Database) (userID : GoString) (c : Circumstances) :
    Grows db (s.issue db userID c).2 ∧
      ∀ tokens, (s.issue db userID c).1 = .ok tokens →
        s.hashToken tokens.refreshToken ∈ (s.issue db userID c).2.refreshTokens := by
  have hspent : ∀ tokenHash ∈ db.refreshTokens, Spent db tokenHash → Spent (s.issue db userID c).2 tokenHash :=
    fun _ hmem hspent => hspent.issue userID (.inl hmem)
  obtain ⟨err, hissue⟩ | ⟨tokens, row, _, _, hissue⟩ := issue_cases s db userID c
  · rw [hissue]
    exact ⟨.refl, nofun⟩
  · rw [hissue] at hspent ⊢
    refine ⟨.of_spent (fun _ hmem => (AList.mem_insert _).mpr (.inr hmem)) hspent, ?_⟩
    rintro _ ⟨⟩
    exact (AList.mem_insert _).mpr (.inl rfl)

theorem grows_login (s : Service) (db : Database) (email password : GoString) (c : Circumstances) :
    Grows db (s.login db email password c).2 ∧
      ∀ user tokens, (s.login db email password c).1 = .ok (user, tokens) →
        s.hashToken tokens.refreshToken ∈ (s.login db email password c).2.refreshTokens := by
  simp only [Service.login]
  split
  · split
    · exact ⟨.refl, nofun⟩
    · split
      · exact ⟨.refl, nofun⟩
      · rename_i id _ _ _ _ _ _
        obtain ⟨hgrows, hstored⟩ := grows_issue s db id c
        split <;> rename_i hissue <;> rw [hissue] at hgrows hstored
        · exact ⟨hgrows, nofun⟩
        · refine ⟨hgrows, ?_⟩
          rintro _ _ ⟨⟩
          exact hstored _ rfl
  · exact ⟨.refl, nofun⟩

theorem grows_refresh (s : Service) (db : Database) (raw : GoString) (c : Circumstances) :
    Grows db (s.refresh db raw c).2 ∧
      ∀ user tokens, (s.refresh db raw c).1 = .ok (user, tokens) →
        s.hashToken tokens.refreshToken ∈ (s.refresh db raw c).2.refreshTokens := by
  simp only [Service.refresh]
  split
  · exact ⟨.refl, nofun⟩
  · split
    · rename_i user _ _
      split
      · exact ⟨.refl, nofun⟩
      · obtain ⟨hgrows, hstored⟩ := grows_issue s (revokeUsed db (s.hashToken raw) c.now) user.id c
        split <;> rename_i hissue <;> rw [hissue] at hgrows hstored
        · exact ⟨(grows_revokeUsed _ _ _).trans hgrows, nofun⟩
        · refine ⟨(grows_revokeUsed _ _ _).trans hgrows, ?_⟩
          rintro _ _ ⟨⟩
          exact hstored _ rfl
    · exact ⟨.refl, nofun⟩

/-- A revoked token is refused. -/
theorem Revoked.refused (hrevoked : Revoked db (s.hashToken raw)) (c : Circumstances) :
    ∃ err, (s.refresh db raw c).1 = .error err := by
  simp only [Service.refresh, hrevoked.spent.selectUser_eq_none]
  split
  · exact ⟨_, rfl⟩
  · split
    · rename_i hnone
      cases hnone
    · exact ⟨_, rfl⟩

/-- The cookies of the mode without `Secure`: there is one name, and what is kept under it is a token of the table. -/
def Plain (h : HTTPHandler) (v : Visit) : Prop :=
  ∀ name cookie, v.jar.lookup name = some cookie →
    name = refreshCookieName ∧ h.service.hashToken cookie.value ∈ v.db.refreshTokens

theorem receive_set (hplain : h.secureCookies = false) (jar : Jar) (t : Tokens) :
    (h.setRefreshCookie t).foldl receive jar =
      jar.insert refreshCookieName { value := t.refreshToken, expires := some (wholeSeconds t.refreshExpiresAt) } := by
  have hname : strings.hasPrefix refreshCookieName (lit "__Host-") = false := by decide
  simp [HTTPHandler.setRefreshCookie, HTTPHandler.refreshCookieName, hplain, receive, hname]

theorem receive_clear (hplain : h.secureCookies = false) (jar : Jar) :
    h.clearRefreshCookie.foldl receive jar = jar.erase refreshCookieName := by
  have hname : strings.hasPrefix refreshCookieName (lit "__Host-") = false := by decide
  have hsecure : strings.hasPrefix secureRefreshCookieName (lit "__Host-") = true := by decide
  simp [HTTPHandler.clearRefreshCookie, hplain, receive, hname, hsecure]

theorem Plain.set (hv : Plain h v) (hplain : h.secureCookies = false) (hgrows : Grows v.db db) {t : Tokens}
    (hstored : h.service.hashToken t.refreshToken ∈ db.refreshTokens) :
    Plain h { db, jar := (h.setRefreshCookie t).foldl receive v.jar } := by
  intro name cookie hlookup
  rw [receive_set hplain, Map.lookup_insert_eq] at hlookup
  split at hlookup
  · rename_i hname
    cases hlookup
    exact ⟨hname, hstored⟩
  · obtain ⟨hname, hmem⟩ := hv name cookie hlookup
    exact ⟨hname, hgrows.stored _ hmem⟩

theorem Plain.clear (hv : Plain h v) (hplain : h.secureCookies = false) (hgrows : Grows v.db db) :
    Plain h { db, jar := h.clearRefreshCookie.foldl receive v.jar } := by
  intro name cookie hlookup
  rw [receive_clear hplain, Map.lookup_erase_eq] at hlookup
  split at hlookup
  · cases hlookup
  · obtain ⟨hname, hmem⟩ := hv name cookie hlookup
    exact ⟨hname, hgrows.stored _ hmem⟩

theorem Plain.keep (hv : Plain h v) (hgrows : Grows v.db db) : Plain h { v with db } := by
  intro name cookie hlookup
  obtain ⟨hname, hmem⟩ := hv name cookie hlookup
  exact ⟨hname, hgrows.stored _ hmem⟩

/-- One request leaves the tokens that are revoked, and the cookies as they should be. -/
theorem Plain.step (hplain : h.secureCookies = false) (hv : Plain h v) (hstep : v.step h e = some next) :
    Plain h next ∧ Grows v.db next.db := by
  cases hstep
  cases e with
  | login allowed credentials c =>
    cases allowed with
    | false => exact ⟨hv, .refl⟩
    | true =>
      cases credentials with
      | none => exact ⟨hv, .refl⟩
      | some pair =>
        obtain ⟨hgrows, hstored⟩ := grows_login h.service v.db pair.1 pair.2 c
        simp only [if_pos, HTTPHandler.login]
        split <;> rename_i hlogin <;> rw [hlogin] at hgrows hstored
        · exact ⟨hv.keep hgrows, hgrows⟩
        · exact ⟨hv.set hplain hgrows (hstored _ _ rfl), hgrows⟩
  | refresh allowed c =>
    cases allowed with
    | false => exact ⟨hv, .refl⟩
    | true =>
      obtain ⟨hgrows, hstored⟩ := grows_refresh h.service v.db ((send v.jar c.now h.refreshCookieName).getD []) c
      simp only [if_pos, HTTPHandler.refresh, BrowserEvent.now]
      split <;> rename_i hrefresh <;> rw [hrefresh] at hgrows hstored
      · exact ⟨hv.clear hplain hgrows, hgrows⟩
      · exact ⟨hv.set hplain hgrows (hstored _ _ rfl), hgrows⟩
  | logout c =>
    have hgrows : Grows v.db (h.logout v.db (send v.jar c.now) c).2 := by
      simp only [HTTPHandler.logout]
      split
      · exact grows_logout _ _ _ _
      · exact .refl
    exact ⟨hv.clear hplain hgrows, hgrows⟩

theorem plain_of_run (hplain : h.secureCookies = false) (hv : Plain h v)
    (hrun : run (Visit.step h) v events = some next) : Plain h next ∧ Grows v.db next.db := by
  apply run_induction (P := fun _ next => Plain h next ∧ Grows v.db next.db) ⟨hv, .refl⟩ _ hrun
  rintro _ middle e next _ ⟨hmiddle, hgrows⟩ hstep
  obtain ⟨hnext, hlast⟩ := hmiddle.step hplain hstep
  exact ⟨hnext, hgrows.trans hlast⟩

/-- In the mode without `Secure` the browser has one name, which is the one that `logout` asks for. -/
theorem Plain.holds (hv : Plain h v) {now : Time} (hholds : v.Holds now raw) :
    send v.jar now refreshCookieName = some raw ∧ h.service.hashToken raw ∈ v.db.refreshTokens := by
  have hsent : ∀ {name}, send v.jar now name = some raw →
      name = refreshCookieName ∧ h.service.hashToken raw ∈ v.db.refreshTokens := by
    intro name hsend
    simp only [send] at hsend
    split at hsend
    · rename_i cookie hlookup
      split at hsend <;> cases hsend
      exact hv name cookie hlookup
    · cases hsend
  obtain hplain | hsecure := hholds
  · exact ⟨hplain, (hsent hplain).2⟩
  · exact absurd (hsent hsecure).1 (by decide)

theorem endsSession_of_plain (hplain : h.secureCookies = false) : EndsSession h := by
  intro db events v c next later final raw hrun hupdate hlogout hlater hholds c'
  have hstart : Plain h (.start db) := by
    rintro _ _ ⟨⟩
  obtain ⟨hv, _⟩ := plain_of_run hplain hstart hrun
  obtain ⟨hsend, hstored⟩ := hv.holds hholds
  obtain ⟨hnext, _⟩ := hv.step hplain hlogout
  by_cases hraw : raw = []
  · exact ⟨_, by rw [Service.refresh, if_pos hraw]⟩
  have hdb : next.db = revokeUnused v.db (h.service.hashToken raw) c.now := by
    cases hlogout
    show (match send v.jar c.now refreshCookieName with
      | some raw => (h.service.logout v.db raw c).2
      | none => v.db) = _
    simp only [hsend, Service.logout, if_neg hraw, hupdate]
  have hrevoked : Revoked next.db (h.service.hashToken raw) := by
    rw [hdb]
    exact ⟨mem_of_lookup_map (lookup_revokeUnused _ _ _) _ hstored, spent_revokeUnused _ _ _⟩
  exact ((plain_of_run hplain hnext hlater).2.revoked _ hrevoked).refused c'

def secureHandler : HTTPHandler := { service := sampleService, secureCookies := true }

def logsIn : List BrowserEvent :=
  [.login true (some (lit "anna@example.com", lit "secret")) (undisturbed 0 (lit "second"))]

/-- The browser logs in and out: the token is still accepted, since `logout` asked for the cookie by the other name. -/
theorem secure_logout_keeps_token :
    ∃ v next result, run (Visit.step secureHandler) (.start sampleDatabase) logsIn = some v ∧
      v.Holds 1 (lit "second") ∧ v.step secureHandler (.logout (undisturbed 1 [])) = some next ∧
      (sampleService.refresh next.db (lit "second") (undisturbed 2 (lit "third"))).1 = .ok result := by
  refine ⟨_, _, _, rfl, .inr ?_, rfl, rfl⟩
  decide +kernel

theorem not_endsSession_secure : ¬ EndsSession secureHandler := by
  intro hends
  have hholds : ∀ v, run (Visit.step secureHandler) (.start sampleDatabase) logsIn = some v →
      v.Holds 1 (lit "second") := by
    rintro _ ⟨⟩
    exact .inr (by decide +kernel)
  obtain ⟨err, hrefused⟩ := hends sampleDatabase logsIn _ (undisturbed 1 []) _ [] _ _ rfl rfl rfl rfl (hholds _ rfl)
    (undisturbed 2 (lit "third"))
  cases hrefused

/-- Logging out ends the session of the browser in the mode without `Secure`, and only there. -/
theorem logout_ends_session_iff (secureCookies : Bool) :
    (∀ service, EndsSession { service, secureCookies }) ↔ secureCookies = false := by
  constructor
  · intro hends
    cases secureCookies with
    | false => rfl
    | true => exact absurd (hends sampleService) not_endsSession_secure
  · exact fun hplain service => endsSession_of_plain hplain

end myngrok.auth
