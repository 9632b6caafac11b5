import Myngrok.Auth.Accounts

open golang transition

namespace myngrok.auth

/-- The user has registered, and then somebody has given a password for the user's email that agrees with the hash of
    the registration. -/
def LoggedIn (service : AccessService) (events : List AccountEvent) (user : User) : Prop :=
  ∃ email password hash call email' password',
    List.Sublist [.register email password (.ok hash) user.id none, .find call email' password' none] events ∧
    normalizeEmail email = user.email ∧ 10 ≤ password.length ∧ normalizeEmail email' = user.email ∧
    service.compareHashAndPassword hash password' = true

/-- Nobody but the service computes codes with its secret: if the code of the token is right, then the service has
    signed what the token says. -/
def NotForged (service : AccessService) (s : Accounts) (token : GoString) : Prop :=
  ∀ header payload signature, token = header ++ lit "." ++ payload ++ lit "." ++ signature →
    base64.decodeString signature = some (service.hmac service.accessSecret (header ++ lit "." ++ payload)) →
    ∃ claims ∈ s.signed, header ++ lit "." ++ payload = unsignedJWT claims

/-- The user has a row, under the email that goes with the ID, and has logged in. -/
structure Known (service : AccessService) (events : List AccountEvent) (s : Accounts) (user : User) : Prop where
  row : ∃ row, s.db.users.lookup user.id = some row ∧ row.email = user.email
  loggedIn : LoggedIn service events user

/-- Where everything that stands for a user comes from. -/
structure Traced (service : AccessService) (events : List AccountEvent) (s : Accounts) : Prop where
  users : ∀ id row, s.db.users.lookup id = some row → id ≠ [] ∧ utf8.validString id = true ∧ row.status = .active ∧
    ∃ email password, .register email password (.ok row.passwordHash) id none ∈ events ∧
      normalizeEmail email = row.email ∧ 10 ≤ password.length
  tokens : ∀ tokenHash row, s.db.refreshTokens.lookup tokenHash = some row →
    ∃ email, Known service events s { id := row.userID, email }
  calls : ∀ call state user, s.calls.lookup call = some state → state.user = some user → Known service events s user
  signed : ∀ claims ∈ s.signed, ∃ user signing, claims = service.claims user.id signing ∧ Known service events s user
  returned : ∀ call user tokens, s.calls.lookup call = some (.returned (.ok (user, tokens))) →
    ∃ signing raw now store, .issue call signing raw now store ∈ events ∧
      tokens.accessToken = signJWT service.hmac (service.claims user.id signing) service.accessSecret

variable {service : AccessService} {events : List AccountEvent} {s next : Accounts} {e : AccountEvent} {user : User}
  {call : Nat} {state : AccountCall}

theorem LoggedIn.concat (h : LoggedIn service events user) (e : AccountEvent) :
    LoggedIn service (events ++ [e]) user := by
  obtain ⟨email, password, hash, call, email', password', hevents, hrest⟩ := h
  exact ⟨email, password, hash, call, email', password', hevents.trans (List.sublist_append_left events [e]), hrest⟩

theorem Known.concat (h : Known service events s user)
    (husers : ∀ id row, s.db.users.lookup id = some row → next.db.users.lookup id = some row) (e : AccountEvent) :
    Known service (events ++ [e]) next user := by
  obtain ⟨row, hrow, hemail⟩ := h.row
  exact ⟨⟨row, husers _ _ hrow, hemail⟩, h.loggedIn.concat e⟩

theorem user_of_issues (h : state.issues = some user) : state.user = some user := by
  cases state with
  | updated | revoked => exact h
  | _ => cases h

/-- Rows of refresh tokens are changed in the times alone. -/
theorem lookup_refreshTokens {db : Database} {tokenHash raw : GoString} {row : RefreshTokenRow} {now : Time}
    (hlookup : (revokeUsed db raw now).refreshTokens.lookup tokenHash = some row ∨
      (revokeUnused db raw now).refreshTokens.lookup tokenHash = some row) :
    ∃ old, db.refreshTokens.lookup tokenHash = some old ∧ old.userID = row.userID := by
  rw [lookup_revokeUsed, lookup_revokeUnused, Option.map_eq_some_iff, Option.map_eq_some_iff] at hlookup
  obtain ⟨old, hold, rfl⟩ | ⟨old, hold, rfl⟩ := hlookup
  · refine ⟨old, hold, ?_⟩
    split <;> rfl
  · refine ⟨old, hold, ?_⟩
    split <;> rfl

namespace Traced

/-- A step that leaves the users alone, and says where its own changes come from. -/
theorem concat (h : Traced service events s) (husers : next.db.users = s.db.users)
    (htokens : ∀ tokenHash row, next.db.refreshTokens.lookup tokenHash = some row →
      (∃ old, s.db.refreshTokens.lookup tokenHash = some old ∧ old.userID = row.userID) ∨
        ∃ email, Known service events s { id := row.userID, email })
    (hcalls : ∀ call state user, next.calls.lookup call = some state → state.user = some user →
      (∃ old, s.calls.lookup call = some old ∧ old.user = some user) ∨ Known service (events ++ [e]) s user)
    (hsigned : ∀ claims ∈ next.signed, claims ∈ s.signed ∨
      ∃ user signing, claims = service.claims user.id signing ∧ Known service events s user)
    (hreturned : ∀ call user tokens, next.calls.lookup call = some (.returned (.ok (user, tokens))) →
      s.calls.lookup call = some (.returned (.ok (user, tokens))) ∨
        ∃ signing raw now store, e = .issue call signing raw now store ∧
          tokens.accessToken = signJWT service.hmac (service.claims user.id signing) service.accessSecret) :
    Traced service (events ++ [e]) next where
  users := by
    intro id row hrow
    rw [husers] at hrow
    obtain ⟨hid, hvalid, hactive, email, password, hevent, hrest⟩ := h.users id row hrow
    exact ⟨hid, hvalid, hactive, email, password, List.mem_append_left _ hevent, hrest⟩
  tokens := by
    intro tokenHash row hrow
    obtain ⟨old, hold, huser⟩ | ⟨email, hknown⟩ := htokens tokenHash row hrow
    · obtain ⟨email, hknown⟩ := h.tokens tokenHash old hold
      exact ⟨email, huser ▸ hknown.concat (fun _ _ hrow => husers ▸ hrow) e⟩
    · exact ⟨email, hknown.concat (fun _ _ hrow => husers ▸ hrow) e⟩
  calls := by
    intro call state user hlookup huser
    obtain ⟨old, hold, holdUser⟩ | hknown := hcalls call state user hlookup huser
    · exact (h.calls call old user hold holdUser).concat (fun _ _ hrow => husers ▸ hrow) e
    · exact ⟨husers ▸ hknown.row, hknown.loggedIn⟩
  signed := by
    intro claims hmem
    obtain hold | ⟨user, signing, hclaims, hknown⟩ := hsigned claims hmem
    · obtain ⟨user, signing, hclaims, hknown⟩ := h.signed claims hold
      exact ⟨user, signing, hclaims, hknown.concat (fun _ _ hrow => husers ▸ hrow) e⟩
    · exact ⟨user, signing, hclaims, hknown.concat (fun _ _ hrow => husers ▸ hrow) e⟩
  returned := by
    intro call user tokens hlookup
    obtain hold | ⟨signing, raw, now, store, rfl, haccess⟩ := hreturned call user tokens hlookup
    · obtain ⟨signing, raw, now, store, hevent, haccess⟩ := h.returned call user tokens hold
      exact ⟨signing, raw, now, store, List.mem_append_left _ hevent, haccess⟩
    · exact ⟨signing, raw, now, store, List.mem_append_right _ (List.mem_singleton_self _), haccess⟩

/-- A call goes on without a statement that changes anything. -/
theorem move (h : Traced service events s)
    (huser : ∀ user, state.user = some user → Known service (events ++ [e]) s user)
    (hrunning : ∀ user tokens, state ≠ .returned (.ok (user, tokens))) :
    Traced service (events ++ [e]) (s.set call state) := by
  refine h.concat rfl (fun _ row hrow => .inl ⟨row, hrow, rfl⟩) ?_ (fun _ hmem => .inl hmem) ?_
  · intro query found user hlookup hfound
    rw [Accounts.set, Map.lookup_insert_eq] at hlookup
    split at hlookup
    · cases hlookup
      exact .inr (huser user hfound)
    · exact .inl ⟨found, hlookup, hfound⟩
  · intro query user tokens hlookup
    rw [Accounts.set, Map.lookup_insert_eq] at hlookup
    split at hlookup
    · cases hlookup
      exact absurd rfl (hrunning user tokens)
    · exact .inl hlookup

variable {email id password : GoString} {now : Time}

section

variable (h : Traced service events s)

include h

theorem registered {hash : GoString} (hid : id ≠ []) (hvalid : utf8.validString id = true)
    (hlength : 10 ≤ password.length) (hnew : id ∉ s.db.users) :
    Traced service (events ++ [.register email password (.ok hash) id none])
      { s with db.users := s.db.users.insert id
                { email := normalizeEmail email, passwordHash := hash, status := .active } } := by
  have hkept : ∀ query row, s.db.users.lookup query = some row →
      (s.db.users.insert id { email := normalizeEmail email, passwordHash := hash, status := .active }).lookup query =
        some row := by
    intro query row hrow
    rw [Map.lookup_insert_eq, if_neg, hrow]
    rintro rfl
    exact hnew ((Map.mem_iff_lookup _ _).mpr ⟨row, hrow⟩)
  refine ⟨?_, ?_, ?_, ?_, ?_⟩
  · intro query row hrow
    dsimp only at hrow
    rw [Map.lookup_insert_eq] at hrow
    split at hrow
    · rename_i hsame
      cases hrow
      subst hsame
      exact ⟨hid, hvalid, rfl, email, password, List.mem_append_right _ (List.mem_singleton_self _), rfl, hlength⟩
    · obtain ⟨hquery, hqueryValid, hactive, email', password', hevent, hrest⟩ := h.users query row hrow
      exact ⟨hquery, hqueryValid, hactive, email', password', List.mem_append_left _ hevent, hrest⟩
  · intro tokenHash row hrow
    obtain ⟨email', hknown⟩ := h.tokens tokenHash row hrow
    exact ⟨email', hknown.concat hkept _⟩
  · intro call state user hlookup huser
    exact (h.calls call state user hlookup huser).concat hkept _
  · intro claims hmem
    obtain ⟨user, signing, hclaims, hknown⟩ := h.signed claims hmem
    exact ⟨user, signing, hclaims, hknown.concat hkept _⟩
  · intro call user tokens hlookup
    obtain ⟨signing, raw, now, store, hevent, haccess⟩ := h.returned call user tokens hlookup
    exact ⟨signing, raw, now, store, List.mem_append_left _ hevent, haccess⟩

/-- The right password has been given. -/
theorem known_of_find {row : UserRow} (hrow : s.db.users.lookup id = some row)
    (hemail : row.email = normalizeEmail email)
    (hpassword : service.compareHashAndPassword row.passwordHash password = true) :
    Known service (events ++ [.find call email password none]) s { id, email := row.email } := by
  obtain ⟨_, _, _, email₀, password₀, hevent, hnormal, hlength⟩ := h.users id row hrow
  refine ⟨⟨row, hrow, rfl⟩, email₀, password₀, row.passwordHash, call, email, password, ?_, hnormal, hlength,
    hemail.symm, hpassword⟩
  exact (List.singleton_sublist.mpr hevent).append (List.Sublist.refl _)

/-- The token that is found has been issued to its user. -/
theorem known_of_select {tokenHash : GoString} (hselect : selectUser s.db tokenHash now = some user) :
    Known service events s user := by
  unfold selectUser at hselect
  split at hselect
  · cases hselect
  · rename_i row hrow
    obtain ⟨email, hknown⟩ := h.tokens tokenHash row hrow
    obtain ⟨found, hfound, hemail⟩ := hknown.row
    split at hselect
    · split at hselect
      · cases hselect
      · rename_i userRow hlookup
        rw [hfound] at hlookup
        cases hlookup
        split at hselect
        · cases hselect
          exact hemail ▸ hknown
        · cases hselect
    · cases hselect

/-- A call returns what it has issued, or an error. -/
theorem issue {signing : Signing} {raw : Except Error GoString} {store : Option Error} (result : Except Error Tokens)
    {refreshTokens : sql.Table GoString RefreshTokenRow} (hphase : s.calls.lookup call = some state)
    (hissues : state.issues = some user) (htokens : ∀ tokenHash row, refreshTokens.lookup tokenHash = some row →
      s.db.refreshTokens.lookup tokenHash = some row ∨ row.userID = user.id) (haccess : ∀ tokens, result = .ok tokens →
      tokens.accessToken = signJWT service.hmac (service.claims user.id signing) service.accessSecret) :
    Traced service (events ++ [.issue call signing raw now store])
      ({ s with db.refreshTokens := refreshTokens, signed := service.claims user.id signing :: s.signed }.set call
        (.returned (result.map fun tokens => (user, tokens)))) := by
  have hknown := h.calls call state user hphase (user_of_issues hissues)
  refine h.concat rfl ?_ ?_ ?_ ?_
  · intro tokenHash row hrow
    obtain hold | hown := htokens tokenHash row hrow
    · exact .inl ⟨row, hold, rfl⟩
    · exact .inr ⟨user.email, hown ▸ hknown⟩
  · intro query found user' hlookup hfound
    rw [Accounts.set, Map.lookup_insert_eq] at hlookup
    split at hlookup
    · cases hlookup
      cases result with
      | error err => cases hfound
      | ok tokens =>
        cases hfound
        exact .inr (hknown.concat (fun _ _ hrow => hrow) _)
    · exact .inl ⟨found, hlookup, hfound⟩
  · intro claims hmem
    obtain rfl | hold := List.mem_cons.mp hmem
    · exact .inr ⟨user, signing, rfl, hknown⟩
    · exact .inl hold
  · intro query user' tokens hlookup
    rw [Accounts.set, Map.lookup_insert_eq] at hlookup
    split at hlookup
    · rename_i hsame
      subst hsame
      cases result with
      | error err => cases hlookup
      | ok issued =>
        cases hlookup
        exact .inr ⟨signing, raw, now, store, rfl, haccess _ rfl⟩
    · exact .inl hlookup

theorem step (hstep : s.step service e = some next) : Traced service (events ++ [e]) next := by
  cases Accounts.step_cases hstep with
  | rejected =>
    exact h.concat rfl (fun _ row hrow => .inl ⟨row, hrow, rfl⟩) (fun _ state _ hlookup huser => .inl ⟨state, hlookup, huser⟩)
      (fun _ hmem => .inl hmem) (fun _ _ _ hlookup => .inl hlookup)
  | registered hid hvalid hlength hnew => exact h.registered hid hvalid hlength hnew
  | failed => exact h.move (fun _ hnone => by cases hnone) nofun
  | found hrow hemail hpassword =>
    refine h.move (fun user huser => ?_) nofun
    cases huser
    exact h.known_of_find hrow hemail hpassword
  | updated hphase =>
    refine h.move (fun user huser => ?_) nofun
    exact (h.calls _ _ user hphase huser).concat (fun _ _ hrow => hrow) _
  | selected hselect =>
    refine h.move (fun user huser => ?_) nofun
    cases huser
    exact (h.known_of_select hselect).concat (fun _ _ hrow => hrow) _
  | @revoked call raw now user hphase =>
    refine h.concat rfl (fun _ _ hrow => .inl (lookup_refreshTokens (.inl hrow))) ?_ (fun _ hmem => .inl hmem) ?_
    · intro query found user' hlookup hfound
      rw [Accounts.set, Map.lookup_insert_eq] at hlookup
      split at hlookup
      · cases hlookup
        exact .inr ((h.calls _ _ user' hphase hfound).concat (fun _ _ hrow => hrow) _)
      · exact .inl ⟨found, hlookup, hfound⟩
    · intro query user' tokens hlookup
      rw [Accounts.set, Map.lookup_insert_eq] at hlookup
      split at hlookup
      · cases hlookup
      · exact .inl hlookup
  | unissued hphase hissues => exact h.issue (.error _) hphase hissues (fun _ _ hrow => .inl hrow) nofun
  | issued hphase hissues hrow haccess =>
    refine h.issue (.ok _) hphase hissues ?_ ?_
    · intro tokenHash row hlookup
      rw [Map.lookup_insert_eq] at hlookup
      split at hlookup
      · cases hlookup
        exact .inr hrow
      · exact .inl hlookup
    · intro tokens heq
      cases heq
      exact haccess
  | logout hdb =>
    obtain rfl | rfl := hdb
    · exact h.concat rfl (fun _ row hrow => .inl ⟨row, hrow, rfl⟩)
        (fun _ state _ hlookup huser => .inl ⟨state, hlookup, huser⟩) (fun _ hmem => .inl hmem)
        (fun _ _ _ hlookup => .inl hlookup)
    · exact h.concat rfl (fun _ _ hrow => .inl (lookup_refreshTokens (.inr hrow)))
        (fun _ state _ hlookup huser => .inl ⟨state, hlookup, huser⟩) (fun _ hmem => .inl hmem)
        (fun _ _ _ hlookup => .inl hlookup)

end

end Traced

theorem traced_of_run (hrun : run (Accounts.step service) Accounts.start events = some s) :
    Traced service events s := by
  apply run_induction (P := Traced service) _ (fun _ _ _ _ _ h hstep => h.step hstep) hrun
  exact ⟨nofun, nofun, nofun, nofun, nofun⟩

/-- A token that says what the service has signed is read as the service has written it. -/
theorem claims_of_unsignedJWT {signed c : Claims} {header payload data : GoString} (hsubject : utf8.validString signed.subject = true)
    (htype : utf8.validString signed.type = true) (hpayload : 0x2E ∉ payload)
    (hunsigned : header ++ lit "." ++ payload = unsignedJWT signed)
    (hdata : base64.decodeString payload = some data) (hclaims : json.unmarshal claimsFields Claims.zero data = some c) :
    c = signed := by
  have hlast : ∀ text rest : GoString, text ++ lit "." ++ rest = text ++ 0x2E :: rest := by
    intro text rest
    rw [List.append_assoc]
    rfl
  rw [unsignedJWT, hlast, hlast] at hunsigned
  obtain ⟨_, rfl⟩ := strings.append_separator_inj hpayload (base64.dot_notMem_encodeToString _) hunsigned
  rw [base64.decodeString_encodeToString] at hdata
  cases hdata
  rw [unmarshal_claims hsubject htype] at hclaims
  exact (Option.some.inj hclaims).symm

namespace AccessService

theorem validString_claims (service : AccessService) {userID : GoString} (hvalid : utf8.validString userID = true)
    (signing : Signing) :
    utf8.validString (service.claims userID signing).subject = true ∧
      utf8.validString (service.claims userID signing).type = true := by
  refine ⟨hvalid, ?_⟩
  show utf8.validString (lit "access") = true
  decide

/-- What `UserFromAccessToken` says of a token that `issue` has made. -/
theorem userFromAccessToken_signJWT {db : Database} {row : UserRow} (hid : user.id ≠ [])
    (hvalid : utf8.validString user.id = true) (hrow : db.users.lookup user.id = some row)
    (hemail : row.email = user.email) (hactive : row.status = .active) (signing : Signing) (now : Time) :
    service.userFromAccessToken db (signJWT service.hmac (service.claims user.id signing) service.accessSecret) now none =
      if unix (signing.expiresFrom + service.accessTTL) < unix now then .error errUnauthorized else .ok user := by
  obtain ⟨hsubject, htype⟩ := service.validString_claims hvalid signing
  have hverify : verifyJWT service.hmac (signJWT service.hmac (service.claims user.id signing) service.accessSecret)
      service.accessSecret = .ok (service.claims user.id signing) := verifyJWT_signJWT hsubject htype
  by_cases hexpired : unix (signing.expiresFrom + service.accessTTL) < unix now
  · simp only [userFromAccessToken, hverify]
    rw [if_pos (.inr (.inr hexpired)), if_pos hexpired]
  · rw [if_neg hexpired]
    exact userFromAccessToken_eq_ok.mpr ⟨⟨_, hverify, rfl, hid, hexpired, rfl⟩, rfl, row, hrow, hactive, hemail⟩

end AccessService

/-- A token that the service has signed is none that somebody else has made. -/
theorem notForged_signJWT {claims : Claims} (hmem : claims ∈ s.signed) :
    NotForged service s (signJWT service.hmac claims service.accessSecret) := by
  intro header payload signature htoken _
  refine ⟨claims, hmem, ?_⟩
  have hlast : ∀ text rest : GoString, text ++ lit "." ++ rest = text ++ 0x2E :: rest := by
    intro text rest
    rw [List.append_assoc]
    rfl
  -- Both sides have two dots, and those of the token stand between its parts.
  have hzero : ∀ data, (base64.encodeToString data).count 0x2E = 0 := fun data =>
    List.count_eq_zero.mpr (base64.dot_notMem_encodeToString data)
  have hdots := congrArg (List.count 0x2E) htoken
  rw [signJWT, unsignedJWT] at hdots
  simp only [List.count_append, hzero, show List.count 0x2E (lit ".") = 1 by decide] at hdots
  have hsignature : 0x2E ∉ signature := List.count_eq_zero.mp (by omega)
  rw [signJWT, hlast, hlast (header ++ lit "." ++ payload)] at htoken
  exact (strings.append_separator_inj (base64.dot_notMem_encodeToString _) hsignature htoken).1.symm

/-- Who is taken for a user has logged in. In every order of the statements of all calls, a user for whom `Login` or
    `Refresh` returns tokens, or whom `UserFromAccessToken` finds for a token that has not been forged, has registered,
    and afterwards the right password for the user's email was given to `Login`. -/
theorem authenticated_has_logged_in (hrun : run (Accounts.step service) Accounts.start events = some s) :
    (∀ call user tokens, s.calls.lookup call = some (.returned (.ok (user, tokens))) → LoggedIn service events user) ∧
    ∀ token now query user, NotForged service s token → service.userFromAccessToken s.db token now query = .ok user →
      LoggedIn service events user := by
  have htraced := traced_of_run hrun
  refine ⟨fun call user tokens hlookup => (htraced.calls _ _ user hlookup rfl).loggedIn, ?_⟩
  intro token now query user hforged hfound
  obtain ⟨⟨c, hverify, _, _, _, hid⟩, _, row, hrow, _, hemail⟩ := AccessService.userFromAccessToken_eq_ok.mp hfound
  obtain ⟨header, payload, signature, data, htoken, _, hdot, _, hcode, hdata, hclaims⟩ := parts_of_verifyJWT hverify
  obtain ⟨signed, hsigned, hunsigned⟩ := hforged header payload signature htoken hcode
  obtain ⟨owner, signing, rfl, hknown⟩ := htraced.signed signed hsigned
  obtain ⟨ownerRow, hownerRow, hownerEmail⟩ := hknown.row
  obtain ⟨_, hvalid, _⟩ := htraced.users _ _ hownerRow
  obtain ⟨hsubject, htype⟩ := service.validString_claims hvalid signing
  obtain rfl := claims_of_unsignedJWT hsubject htype hdot hunsigned hdata hclaims
  -- The claims name the user for whom they were signed, who has one row.
  obtain ⟨id, email⟩ := user
  obtain rfl : owner.id = id := hid
  rw [hownerRow] at hrow
  cases hrow
  obtain rfl : owner.email = email := hownerEmail.symm.trans hemail
  exact hknown.loggedIn

/-- A service whose hashes show what they are made of. -/
def plainService : AccessService :=
  { hashToken := fun raw => lit "hash of " ++ raw
    compareHashAndPassword := fun hash password => hash = lit "hash of " ++ password
    refreshTTL := 60 * minute, hmac := shortKeyMac, accessSecret := lit "key", accessTTL := 15 * minute }

def firstUser : User := { id := lit "usr_1", email := lit "dev@example.test" }

/-- A user registers and logs in, and refreshes the tokens ten minutes later. -/
def firstSession : List AccountEvent :=
  [.register (lit " Dev@Example.test") (lit "correct horse") (.ok (lit "hash of correct horse")) (lit "usr_1") none,
    .find 0 (lit "dev@example.test") (lit "correct horse") none, .update 0 none,
    .issue 0 { issuedAt := 0, expiresFrom := 0 } (.ok (lit "r1")) 0 none,
    .select 1 (lit "r1") (10 * minute) none, .revokeUsed 1 (10 * minute) none,
    .issue 1 { issuedAt := 10 * minute, expiresFrom := 10 * minute } (.ok (lit "r2")) (10 * minute) none]

/-- What the session has come to. -/
theorem run_firstSession : ∃ s tokens, run (Accounts.step plainService) Accounts.start firstSession = some s ∧
    s.calls.lookup 1 = some (.returned (.ok (firstUser, tokens))) ∧
    tokens.accessToken = signJWT plainService.hmac (plainService.claims (lit "usr_1")
      { issuedAt := 10 * minute, expiresFrom := 10 * minute }) plainService.accessSecret ∧
    plainService.claims (lit "usr_1") { issuedAt := 10 * minute, expiresFrom := 10 * minute } ∈ s.signed ∧
    ∃ row, s.db.users.lookup (lit "usr_1") = some row ∧ row.email = firstUser.email ∧ row.status = .active :=
  ⟨_, _, rfl, rfl, rfl, List.mem_cons_self, _, rfl, rfl, rfl⟩

/-- The tokens of the session are those of a user who has logged in. -/
theorem authenticated_has_logged_in_refreshed :
    ∃ s tokens, run (Accounts.step plainService) Accounts.start firstSession = some s ∧
      s.calls.lookup 1 = some (.returned (.ok (firstUser, tokens))) ∧ NotForged plainService s tokens.accessToken ∧
      plainService.userFromAccessToken s.db tokens.accessToken (20 * minute) none = .ok firstUser ∧
      LoggedIn plainService firstSession firstUser := by
  obtain ⟨s, tokens, hrun, hreturned, haccess, hsigned, row, hrow, hemail, hactive⟩ := run_firstSession
  have hforged : NotForged plainService s tokens.accessToken := haccess ▸ notForged_signJWT hsigned
  have hfound : plainService.userFromAccessToken s.db tokens.accessToken (20 * minute) none = .ok firstUser := by
    have hid : firstUser.id ≠ [] := by decide
    rw [haccess]
    exact (AccessService.userFromAccessToken_signJWT hid (by decide) hrow hemail hactive _ _).trans (if_neg (by decide))
  obtain ⟨hcalls, htokens⟩ := authenticated_has_logged_in hrun
  exact ⟨s, tokens, hrun, hreturned, hforged, hfound, htokens _ _ _ _ hforged hfound⟩

/-- The life of an access token: one that `Login` or `Refresh` has returned for a user stands for this user, whatever
    has happened since, to the end of the second in which it expires, and for nobody afterwards. -/
theorem access_token_life (hrun : run (Accounts.step service) Accounts.start events = some s) {tokens : Tokens}
    (hreturned : s.calls.lookup call = some (.returned (.ok (user, tokens)))) :
    ∃ signing raw now store, .issue call signing raw now store ∈ events ∧ ∀ t,
      service.userFromAccessToken s.db tokens.accessToken t none =
        if unix (signing.expiresFrom + service.accessTTL) < unix t then .error errUnauthorized else .ok user := by
  have htraced := traced_of_run hrun
  obtain ⟨signing, raw, now, store, hevent, haccess⟩ := htraced.returned _ _ _ hreturned
  obtain ⟨row, hrow, hemail⟩ := (htraced.calls _ _ user hreturned rfl).row
  obtain ⟨hid, hvalid, hactive, _⟩ := htraced.users _ _ hrow
  refine ⟨signing, raw, now, store, hevent, fun t => ?_⟩
  rw [haccess]
  exact AccessService.userFromAccessToken_signJWT hid hvalid hrow hemail hactive signing t

/-- The second token is good for fifteen minutes, and no second longer. -/
theorem access_token_life_refreshed :
    ∃ s tokens, run (Accounts.step plainService) Accounts.start firstSession = some s ∧
      s.calls.lookup 1 = some (.returned (.ok (firstUser, tokens))) ∧
      plainService.userFromAccessToken s.db tokens.accessToken (25 * minute) none = .ok firstUser ∧
      plainService.userFromAccessToken s.db tokens.accessToken (25 * minute + second) none =
        .error errUnauthorized := by
  obtain ⟨s, tokens, hrun, hreturned, _⟩ := run_firstSession
  obtain ⟨signing, raw, now, store, hevent, hlife⟩ := access_token_life hrun hreturned
  obtain rfl : signing = { issuedAt := 10 * minute, expiresFrom := 10 * minute } := by
    simp [firstSession] at hevent
    exact hevent.1
  exact ⟨s, tokens, hrun, hreturned, (hlife _).trans (if_neg (by decide)), (hlife _).trans (if_pos (by decide))⟩

end myngrok.auth
