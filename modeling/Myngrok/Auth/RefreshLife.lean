import Myngrok.Auth.Authentication

open golang transition

namespace myngrok.auth

/-- The hash that a step marks as revoked: that of the refresh token presented to `Refresh` or `Logout`. -/
def Accounts.revoking (service : AccessService) (s : Accounts) : AccountEvent → List GoString
  | .revokeUsed call _ none =>
    match s.calls.lookup call with
    | some (.selected raw _) => [service.hashToken raw]
    | _ => []
  | .logout raw _ none => if raw = [] then [] else [service.hashToken raw]
  | _ => []

variable {service : AccessService} {s next mid : Accounts} {e : AccountEvent} {user : User} {call : Nat}
  {tokens : Tokens} {tokenHash : GoString} {db db' : Database} {row : RefreshTokenRow}

theorem issue_eq_ok {service : Service} {userID : GoString} {c : Circumstances} {tokens : Tokens}
    (h : service.issue db userID c = (.ok tokens, db')) :
    tokens.refreshExpiresAt = c.now + service.refreshTTL ∧ service.hashToken tokens.refreshToken ∉ db.refreshTokens ∧
      db' = { db with
        refreshTokens := db.refreshTokens.insert (service.hashToken tokens.refreshToken)
          { userID, expiresAt := tokens.refreshExpiresAt, revokedAt := none } } := by
  unfold Service.issue at h
  split at h
  · cases h
  · dsimp only at h
    split at h
    · cases h
    · split at h
      · cases h
      · rename_i hunused
        cases h
        exact ⟨rfl, hunused, rfl⟩

/-- What the step that issues tokens does to the database. -/
theorem Accounts.step_issue {signing : Signing} {raw : Except Error GoString} {now : Time} {store : Option Error}
    (h : s.step service (.issue call signing raw now store) = some next) :
    (next.db = s.db ∧ ∃ err, next.calls = s.calls.insert call (.returned (.error err))) ∨
      ∃ user tokens, tokens.refreshExpiresAt = now + service.refreshTTL ∧
        service.hashToken tokens.refreshToken ∉ s.db.refreshTokens ∧
        next.calls = s.calls.insert call (.returned (.ok (user, tokens))) ∧ next.db = { s.db with
          refreshTokens := s.db.refreshTokens.insert (service.hashToken tokens.refreshToken)
            { userID := user.id, expiresAt := tokens.refreshExpiresAt, revokedAt := none } } := by
  simp only [step] at h
  split at h
  · rename_i user hissues
    cases h
    generalize hissue : service.issue s.db user.id _ = issued
    obtain ⟨result, db⟩ := issued
    cases result with
    | error err =>
      obtain ⟨_, hsame⟩ | ⟨_, _, _, _, hok⟩ := issue_cases service.toService s.db user.id
        { now, query := none, update := none, generated := service.generated user.id signing raw, store }
      · rw [hsame] at hissue
        cases hissue
        exact .inl ⟨rfl, err, rfl⟩
      · rw [hok] at hissue
        cases hissue
    | ok tokens =>
      obtain ⟨hexpires, hunused, rfl⟩ := issue_eq_ok hissue
      exact .inr ⟨user, tokens, hexpires, hunused, rfl, rfl⟩
  · cases h

/-- Either `UPDATE` revokes the token that is presented, and no other. -/
theorem lookup_revoked {presented : GoString} (now : Time)
    (hdb : db' = revokeUsed db presented now ∨ db' = revokeUnused db presented now)
    (hlookup : db.refreshTokens.lookup tokenHash = some row) :
    ∃ revokedAt, db'.refreshTokens.lookup tokenHash = some { row with revokedAt } ∧
      (revokedAt = none ↔ row.revokedAt = none ∧ tokenHash ∉ [presented]) := by
  rw [List.mem_singleton]
  obtain rfl | rfl := hdb
  · rw [lookup_revokeUsed, hlookup, Option.map_some]
    split
    · exact ⟨some now, rfl, by simp_all⟩
    · exact ⟨row.revokedAt, rfl, by simp_all⟩
  · rw [lookup_revokeUnused, hlookup, Option.map_some]
    split
    · exact ⟨some now, rfl, by simp_all⟩
    · -- A token that has been revoked before keeps the time of it.
      rename_i hkept
      exact ⟨row.revokedAt, rfl, fun hnone => ⟨hnone, fun hsame => hkept ⟨hsame, hnone⟩⟩, And.left⟩

/-- A step changes nothing about a token that is stored, but that it is revoked when it is presented. -/
theorem Accounts.lookup_step (hstep : s.step service e = some next)
    (hlookup : s.db.refreshTokens.lookup tokenHash = some row) :
    ∃ revokedAt, next.db.refreshTokens.lookup tokenHash = some { row with revokedAt } ∧
      (revokedAt = none ↔ row.revokedAt = none ∧ tokenHash ∉ s.revoking service e) := by
  have hkept : next.db.refreshTokens = s.db.refreshTokens → s.revoking service e = [] →
      ∃ revokedAt, next.db.refreshTokens.lookup tokenHash = some { row with revokedAt } ∧
        (revokedAt = none ↔ row.revokedAt = none ∧ tokenHash ∉ s.revoking service e) := by
    intro hsame hnone
    rw [hsame, hnone]
    exact ⟨row.revokedAt, hlookup, by simp⟩
  cases e with
  | register | find | update | select =>
    -- No statement of these writes to the table of refresh tokens.
    cases Accounts.step_cases hstep <;> exact hkept rfl rfl
  | revokeUsed call now failure =>
    simp only [step] at hstep
    split at hstep
    · rename_i raw user hphase
      cases failure with
      | some err =>
        cases hstep
        exact hkept rfl rfl
      | none =>
        cases hstep
        have hpresented : s.revoking service (.revokeUsed call now none) = [service.hashToken raw] := by
          simp only [revoking, hphase]
        rw [hpresented]
        exact lookup_revoked now (.inl rfl) hlookup
    · cases hstep
  | issue =>
    obtain ⟨hdb, -⟩ | ⟨user, tokens, -, hunused, -, hdb⟩ := Accounts.step_issue hstep
    · exact hkept (by rw [hdb]) rfl
    · -- A hash in use makes the `INSERT` fail, so it is another row that is stored.
      refine ⟨row.revokedAt, ?_, by simp [revoking]⟩
      rw [hdb, AList.lookup_insert_ne]
      · exact hlookup
      · rintro rfl
        exact hunused ((Map.mem_iff_lookup _ _).mpr ⟨row, hlookup⟩)
  | logout raw now failure =>
    cases hstep
    by_cases hempty : raw = []
    · exact hkept (by simp [Service.logout, hempty]) (by cases failure <;> simp [revoking, hempty])
    · cases failure with
      | some err => exact hkept (by simp [Service.logout, hempty]) rfl
      | none =>
        have hpresented : s.revoking service (.logout raw now none) = [service.hashToken raw] := if_neg hempty
        rw [hpresented]
        exact lookup_revoked now (.inr (by simp [Service.logout, hempty])) hlookup

/-- Over a whole run, the same. -/
theorem Accounts.lookup_run {events : List AccountEvent} (hrun : run (step service) s events = some next)
    (hlookup : s.db.refreshTokens.lookup tokenHash = some row) :
    ∃ revokedAt, next.db.refreshTokens.lookup tokenHash = some { row with revokedAt } ∧
      (revokedAt = none ↔ row.revokedAt = none ∧ tokenHash ∉ outputs (step service) (revoking service) s events) := by
  refine run_induction (P := fun events state => ∃ revokedAt,
    state.db.refreshTokens.lookup tokenHash = some { row with revokedAt } ∧
      (revokedAt = none ↔ row.revokedAt = none ∧ tokenHash ∉ outputs (step service) (revoking service) s events))
    ⟨row.revokedAt, hlookup, by simp [outputs]⟩ ?_ hrun
  rintro events state e next hstate ⟨revokedAt, hstored, hrevoked⟩ hstep
  obtain ⟨revokedAt', hstored', hrevoked'⟩ := lookup_step hstep hstored
  refine ⟨revokedAt', hstored', ?_⟩
  rw [outputs_concat hstate, List.mem_append, not_or, ← and_assoc, ← hrevoked]
  exact hrevoked'

/-- Rows of users stay as they are. -/
theorem Accounts.users_step (hstep : s.step service e = some next) {id : GoString} {row : UserRow}
    (hrow : s.db.users.lookup id = some row) : next.db.users.lookup id = some row := by
  cases Accounts.step_cases hstep with
  | registered hid hvalid hlength hnew =>
    rw [← hrow]
    refine AList.lookup_insert_ne ?_
    rintro rfl
    exact hnew ((Map.mem_iff_lookup _ _).mpr ⟨row, hrow⟩)
  | logout hdb =>
    obtain rfl | rfl := hdb
    · exact hrow
    · exact hrow
  | _ => exact hrow

theorem selectUser_of_lookup {owner : UserRow} (hrow : db.refreshTokens.lookup tokenHash = some row)
    (howner : db.users.lookup row.userID = some owner) (hactive : owner.status = .active) (t : Time) :
    selectUser db tokenHash t =
      if row.revokedAt ≠ none ∨ row.expiresAt ≤ t then none else some { id := row.userID, email := owner.email } := by
  have hvalid : (row.revokedAt = none ∧ row.expiresAt > t) ↔ ¬ (row.revokedAt ≠ none ∨ row.expiresAt ≤ t) := by
    rw [not_or, not_not, Int.not_le, gt_iff_lt]
  simp only [selectUser, hrow, howner, hactive, if_pos, hvalid, ite_not]

/-- The life of a refresh token: once `Login` or `Refresh` has returned it for a user, `Refresh` finds this user for it,
    whatever else happens, until it is presented to `Refresh` or `Logout` or the time has come that was returned with
    it, and nobody from then on. -/
theorem refresh_token_life {before after : List AccountEvent} {signing : Signing} {raw : Except Error GoString}
    {now : Time} {store : Option Error}
    (hissued : run (Accounts.step service) Accounts.start (before ++ [.issue call signing raw now store]) = some mid)
    (hreturned : mid.calls.lookup call = some (.returned (.ok (user, tokens))))
    (hlater : run (Accounts.step service) mid after = some s) :
    tokens.refreshExpiresAt = now + service.refreshTTL ∧ ∀ t,
      selectUser s.db (service.hashToken tokens.refreshToken) t =
        if service.hashToken tokens.refreshToken ∈
              outputs (Accounts.step service) (Accounts.revoking service) mid after ∨
            tokens.refreshExpiresAt ≤ t then none
        else some user := by
  have htraced := traced_of_run hissued
  obtain ⟨owner, howner, hemail⟩ := (htraced.calls _ _ user hreturned rfl).row
  have hactive := (htraced.users _ _ howner).2.2.1
  obtain ⟨hexpires, hstored⟩ : tokens.refreshExpiresAt = now + service.refreshTTL ∧
      mid.db.refreshTokens.lookup (service.hashToken tokens.refreshToken) =
        some { userID := user.id, expiresAt := tokens.refreshExpiresAt, revokedAt := none } := by
    obtain ⟨earlier, _, hstep⟩ := run_concat_eq_some.mp hissued
    obtain ⟨_, err, hcalls⟩ | ⟨user', tokens', hexpires, _, hcalls, hdb⟩ := Accounts.step_issue hstep
    · rw [hcalls, AList.lookup_insert] at hreturned
      cases hreturned
    · rw [hcalls, AList.lookup_insert] at hreturned
      cases hreturned
      exact ⟨hexpires, by rw [hdb, AList.lookup_insert]⟩
  obtain ⟨revokedAt, hlookup, hrevoked⟩ := Accounts.lookup_run hlater hstored
  have howner' : s.db.users.lookup user.id = some owner :=
    run_induction (P := fun _ state => state.db.users.lookup user.id = some owner) howner
      (fun _ _ _ _ _ hrow hstep => Accounts.users_step hstep hrow) hlater
  refine ⟨hexpires, fun t => ?_⟩
  rw [selectUser_of_lookup hlookup howner' hactive, hemail]
  simp only [ne_eq, hrevoked, true_and, not_not]

/-- The first token of the session is good for an hour, but only until it is used. -/
theorem refresh_token_life_used :
    ∃ mid s tokens, run (Accounts.step plainService) Accounts.start (firstSession.take 4) = some mid ∧
      mid.calls.lookup 0 = some (.returned (.ok (firstUser, tokens))) ∧
      run (Accounts.step plainService) mid (firstSession.drop 4) = some s ∧
      selectUser mid.db (plainService.hashToken tokens.refreshToken) (59 * minute) = some firstUser ∧
      selectUser mid.db (plainService.hashToken tokens.refreshToken) (60 * minute) = none ∧
      selectUser s.db (plainService.hashToken tokens.refreshToken) (59 * minute) = none := by
  obtain ⟨mid, s, tokens, hissued, hreturned, hlater, hused⟩ : ∃ mid s tokens,
      run (Accounts.step plainService) Accounts.start (firstSession.take 3 ++
        [.issue 0 { issuedAt := 0, expiresFrom := 0 } (.ok (lit "r1")) 0 none]) = some mid ∧
      mid.calls.lookup 0 = some (.returned (.ok (firstUser, tokens))) ∧
      run (Accounts.step plainService) mid (firstSession.drop 4) = some s ∧
      plainService.hashToken tokens.refreshToken ∈
        outputs (Accounts.step plainService) (Accounts.revoking plainService) mid (firstSession.drop 4) :=
    ⟨_, _, _, rfl, rfl, rfl, List.mem_singleton_self _⟩
  obtain ⟨hexpires, hunused⟩ := refresh_token_life hissued hreturned run_nil
  obtain ⟨_, hlife⟩ := refresh_token_life hissued hreturned hlater
  refine ⟨mid, s, tokens, hissued, hreturned, hlater, (hunused _).trans (if_neg ?_),
    (hunused _).trans (if_pos (.inr ?_)), (hlife _).trans (if_pos (.inl hused))⟩
  · rw [hexpires, outputs, List.mem_nil_iff, false_or]
    decide
  · rw [hexpires]
    decide

end myngrok.auth
