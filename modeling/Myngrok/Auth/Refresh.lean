import Myngrok.Auth.Service
import Myngrok.Transition.Run

open golang transition

namespace myngrok.auth

/-- Where a call of `Refresh` stands, past its `SELECT`, past its `UPDATE` or returned; or what a call of `Logout` has
    returned. -/
inductive Call where
  | selected (raw : GoString) (user : User)
  | revoked (raw : GoString) (user : User)
  | returned (raw : GoString) (result : Except Error (User × Tokens))
  | loggedOut (raw : GoString) (result : Option Error)

def Call.raw : Call → GoString
  | .selected raw _ => raw
  | .revoked raw _ => raw
  | .returned raw _ => raw
  | .loggedOut raw _ => raw

/-- The database with all calls of `Refresh` and `Logout`. -/
structure Calls where
  db : Database
  calls : Map Nat Call

/-- The statements of the calls. `login` is a token issued by `Login`, and `users` any change of the users. -/
inductive CallEvent where
  | select (call : Nat) (raw : GoString) (c : Circumstances)
  | revokeUsed (call : Nat) (c : Circumstances)
  | issue (call : Nat) (c : Circumstances)
  | logout (call : Nat) (raw : GoString) (c : Circumstances)
  | login (userID : GoString) (c : Circumstances)
  | users (users : sql.Table GoString UserRow)

namespace Calls

def start (db : Database) : Calls := { db, calls := ∅ }

def set (s : Calls) (call : Nat) (state : Call) : Calls := { s with calls := s.calls.insert call state }

/-- A token that is drawn has not been presented before. -/
def drawsFresh (service : Service) (s : Calls) (c : Circumstances) : Bool :=
  match c.generated with
  | .error _ => true
  | .ok (_, refreshToken) =>
    s.calls.entries.all fun entry => service.hashToken entry.2.raw ≠ service.hashToken refreshToken

def step (service : Service) (s : Calls) : CallEvent → Option Calls
  | .select call raw c =>
    if call ∈ s.calls then none
    else if raw = [] then some (s.set call (.returned raw (.error errUnauthorized)))
    else
      match c.query, selectUser s.db (service.hashToken raw) c.now with
      | none, some user => some (s.set call (.selected raw user))
      | _, _ => some (s.set call (.returned raw (.error errUnauthorized)))
  | .revokeUsed call c =>
    match s.calls.lookup call with
    | some (.selected raw user) =>
      match c.update with
      | some err => some (s.set call (.returned raw (.error (lit "revoke used token: " ++ err))))
      | none =>
        some ({ s with db := auth.revokeUsed s.db (service.hashToken raw) c.now }.set call (.revoked raw user))
    | _ => none
  | .issue call c =>
    match s.calls.lookup call with
    | some (.revoked raw user) =>
      if s.drawsFresh service c then
        match service.issue s.db user.id c with
        | (.error err, db) => some ({ s with db }.set call (.returned raw (.error err)))
        | (.ok tokens, db) => some ({ s with db }.set call (.returned raw (.ok (user, tokens))))
      else none
    | _ => none
  | .logout call raw c =>
    if call ∈ s.calls then none
    else
      let (result, db) := service.logout s.db raw c
      some ({ s with db }.set call (.loggedOut raw result))
  | .login userID c =>
    if s.drawsFresh service c then some { s with db := (service.issue s.db userID c).2 } else none
  | .users users => some { s with db := { s.db with users } }

section

variable (service : Service) (s : Calls)

/-- The ways a step can go. -/
inductive Step : CallEvent → Calls → Prop where
  | refused {call raw c} (hnew : call ∉ s.calls) :
    Step (.select call raw c) (s.set call (.returned raw (.error errUnauthorized)))
  | select {call raw} {c : Circumstances} {user} (hnew : call ∉ s.calls) (hraw : raw ≠ [])
      (hselect : selectUser s.db (service.hashToken raw) c.now = some user) :
    Step (.select call raw c) (s.set call (.selected raw user))
  | failed {call raw user c err} (hphase : s.calls.lookup call = some (.selected raw user)) :
    Step (.revokeUsed call c) (s.set call (.returned raw (.error (lit "revoke used token: " ++ err))))
  | revokeUsed {call raw user} {c : Circumstances} (hphase : s.calls.lookup call = some (.selected raw user)) :
    Step (.revokeUsed call c)
      ({ s with db := auth.revokeUsed s.db (service.hashToken raw) c.now }.set call (.revoked raw user))
  | issue {call raw} {user : User} {c result} (hphase : s.calls.lookup call = some (.revoked raw user))
      (hfresh : s.drawsFresh service c = true) :
    Step (.issue call c) ({ s with db := (service.issue s.db user.id c).2 }.set call (.returned raw result))
  | logout {call raw c} (hnew : call ∉ s.calls) :
    Step (.logout call raw c)
      ({ s with db := (service.logout s.db raw c).2 }.set call (.loggedOut raw (service.logout s.db raw c).1))
  | login {userID c} (hfresh : s.drawsFresh service c = true) :
    Step (.login userID c) { s with db := (service.issue s.db userID c).2 }
  | users {users} : Step (.users users) { s with db := { s.db with users } }

end

theorem step_cases {service : Service} {s next : Calls} {e : CallEvent} (h : s.step service e = some next) :
    s.Step service e next := by
  cases e with
  | select call raw c =>
    simp only [step] at h
    split at h
    · cases h
    · rename_i hnew
      split at h
      · cases h
        exact .refused hnew
      · rename_i hraw
        split at h <;> cases h
        · rename_i hselect
          exact .select hnew hraw hselect
        · exact .refused hnew
  | revokeUsed call c =>
    simp only [step] at h
    split at h
    · rename_i hphase
      split at h <;> cases h
      · exact .failed hphase
      · exact .revokeUsed hphase
    · cases h
  | issue call c =>
    simp only [step] at h
    split at h
    · rename_i hphase
      split at h
      · rename_i hfresh
        split at h <;> rename_i hissue <;> cases h
        · have hdb := congrArg Prod.snd hissue
          cases hdb
          exact .issue hphase hfresh
        · have hdb := congrArg Prod.snd hissue
          cases hdb
          exact .issue hphase hfresh
      · cases h
    · cases h
  | logout call raw c =>
    simp only [step] at h
    split at h <;> cases h
    rename_i hnew
    exact .logout hnew
  | login userID c =>
    simp only [step] at h
    split at h <;> cases h
    rename_i hfresh
    exact .login hfresh
  | users users =>
    cases h
    exact .users

end Calls

namespace Call

/-- A `Refresh` of the token is between its `SELECT` and its `UPDATE`. -/
def selects (raw : GoString) : Call → Bool
  | .selected presented _ => presented = raw
  | _ => false

/-- A `Refresh` of the token has run its `UPDATE`, and has not returned an error. -/
def uses (raw : GoString) : Call → Bool
  | .revoked presented _ => presented = raw
  | .returned presented (.ok _) => presented = raw
  | _ => false

/-- A `Refresh` of the token is between its `SELECT` and its `INSERT`. -/
def pending (raw : GoString) : Call → Bool
  | .selected presented _ => presented = raw
  | .revoked presented _ => presented = raw
  | _ => false

/-- A `Logout` of the token has returned. -/
def ends (raw : GoString) : Call → Bool
  | .loggedOut presented none => presented = raw
  | _ => false

end Call

/-- Calls that present one token stay apart: a `Refresh` looks it up when no other is about to revoke it, and a `Logout`
    revokes it when no `Refresh` is under way. -/
def staysApart (s : Calls) : CallEvent → Bool
  | .select _ raw _ => !s.calls.entries.any fun entry => entry.2.selects raw
  | .logout _ raw _ => !s.calls.entries.any fun entry => entry.2.pending raw
  | _ => true

/-- The call is in a state with the property. -/
def Has (calls : Map Nat Call) (p : Call → Bool) (call : Nat) : Prop :=
  ∃ state, calls.lookup call = some state ∧ p state = true

/-- One token is used once: at most one call gets past its `UPDATE`, and then nobody finds the token any more; nor after
    a `Logout`. -/
structure SingleUse (service : Service) (raw : GoString) (s : Calls) : Prop where
  one_selects : ∀ call call', Has s.calls (Call.selects raw) call → Has s.calls (Call.selects raw) call' → call = call'
  one_uses : ∀ call call', Has s.calls (Call.uses raw) call → Has s.calls (Call.uses raw) call' → call = call'
  apart : ∀ call call', Has s.calls (Call.selects raw) call → ¬ Has s.calls (Call.uses raw) call'
  nonempty : ∀ call, Has s.calls (Call.pending raw) call → raw ≠ []
  spent : ∀ call, Has s.calls (Call.uses raw) call → Spent s.db (service.hashToken raw)
  ended : ∀ call, Has s.calls (Call.ends raw) call →
    (∀ call', ¬ Has s.calls (Call.pending raw) call') ∧ (raw ≠ [] → Spent s.db (service.hashToken raw))

variable {service : Service} {s next : Calls} {e : CallEvent} {events : List CallEvent} {db : Database} {raw : GoString}
  {call query : Nat} {state : Call} {p : Call → Bool} {calls : Map Nat Call} {c : Circumstances} {user : User}

theorem has_insert : Has (calls.insert call state) p query ↔
    query = call ∧ p state = true ∨ query ≠ call ∧ Has calls p query := by
  rw [Has, Map.lookup_insert_eq]
  by_cases hsame : query = call
  · simp [hsame]
  · simp [hsame, Has]

theorem has_of_insert (hfalse : p state = false) (h : Has (calls.insert call state) p query) : Has calls p query := by
  obtain ⟨_, htrue⟩ | ⟨_, hold⟩ := has_insert.mp h
  · rw [hfalse] at htrue
    cases htrue
  · exact hold

theorem not_has_of_any (h : calls.entries.any (fun entry => p entry.2) = false) : ¬ Has calls p call := by
  rintro ⟨state, hlookup, hp⟩
  exact List.any_eq_false.mp h ⟨call, state⟩ (AList.mem_lookup_iff.mp hlookup) hp

/-- No call gets to a new state, as far as the token is concerned. -/
theorem SingleUse.mono (h : SingleUse service raw s)
    (hselects : ∀ call, Has next.calls (Call.selects raw) call → Has s.calls (Call.selects raw) call)
    (huses : ∀ call, Has next.calls (Call.uses raw) call → Has s.calls (Call.uses raw) call)
    (hpending : ∀ call, Has next.calls (Call.pending raw) call → Has s.calls (Call.pending raw) call)
    (hends : ∀ call, Has next.calls (Call.ends raw) call → Has s.calls (Call.ends raw) call)
    (hspent : ∀ call, Has s.calls (Call.uses raw) call ∨ Has s.calls (Call.ends raw) call →
      Spent s.db (service.hashToken raw) → Spent next.db (service.hashToken raw)) : SingleUse service raw next where
  one_selects := fun _ _ hcall hcall' => h.one_selects _ _ (hselects _ hcall) (hselects _ hcall')
  one_uses := fun _ _ hcall hcall' => h.one_uses _ _ (huses _ hcall) (huses _ hcall')
  apart := fun _ _ hcall hcall' => h.apart _ _ (hselects _ hcall) (huses _ hcall')
  nonempty := fun _ hcall => h.nonempty _ (hpending _ hcall)
  spent := fun call hcall => hspent call (.inl (huses _ hcall)) (h.spent _ (huses _ hcall))
  ended := by
    intro call hcall
    obtain ⟨hnone, hdead⟩ := h.ended _ (hends _ hcall)
    exact ⟨fun call' hcall' => hnone call' (hpending _ hcall'), fun hraw => hspent call (.inr (hends _ hcall)) (hdead hraw)⟩

/-- The call that goes on is none of the token's, or one whose `Refresh` returns. -/
theorem SingleUse.move (h : SingleUse service raw s) (hselects : state.selects raw = false)
    (huses : state.uses raw = true → Has s.calls (Call.uses raw) call) (hpending : state.pending raw = false)
    (hends : state.ends raw = false)
    (hspent : ∀ call, Has s.calls (Call.uses raw) call ∨ Has s.calls (Call.ends raw) call →
      Spent s.db (service.hashToken raw) → Spent db (service.hashToken raw)) :
    SingleUse service raw ({ s with db }.set call state) := by
  refine h.mono (fun _ => has_of_insert hselects) ?_ (fun _ => has_of_insert hpending) (fun _ => has_of_insert hends)
    hspent
  intro query hhas
  obtain ⟨rfl, htrue⟩ | ⟨_, hold⟩ := has_insert.mp hhas
  · exact huses htrue
  · exact hold

theorem raw_of_uses (h : state.uses raw = true) : state.raw = raw := by
  cases state with
  | revoked presented user => exact of_decide_eq_true h
  | returned presented result =>
    cases result with
    | ok pair => exact of_decide_eq_true h
    | error err => cases h
  | _ => cases h

theorem raw_of_ends (h : state.ends raw = true) : state.raw = raw := by
  cases state with
  | loggedOut presented result =>
    cases result with
    | none => exact of_decide_eq_true h
    | some err => cases h
  | _ => cases h

/-- A token that is drawn is none that has been presented, so that what is spent stays so. -/
theorem spent_issue (hfresh : s.drawsFresh service c = true) (userID : GoString)
    (hpresented : Has s.calls (Call.uses raw) call ∨ Has s.calls (Call.ends raw) call)
    (h : Spent s.db (service.hashToken raw)) : Spent (service.issue s.db userID c).2 (service.hashToken raw) := by
  refine h.issue userID (.inr fun accessToken refreshToken hgenerated hsame => ?_)
  obtain ⟨state, hlookup, hraw⟩ : ∃ state, s.calls.lookup call = some state ∧ state.raw = raw := by
    obtain ⟨state, hlookup, hp⟩ | ⟨state, hlookup, hp⟩ := hpresented
    · exact ⟨state, hlookup, raw_of_uses hp⟩
    · exact ⟨state, hlookup, raw_of_ends hp⟩
  simp only [Calls.drawsFresh, hgenerated] at hfresh
  have hother := List.all_eq_true.mp hfresh ⟨call, state⟩ (AList.mem_lookup_iff.mp hlookup)
  exact of_decide_eq_true hother (hraw ▸ hsame.symm)

/-- A call finds the token: it is the only one, and the token has not been used. -/
theorem SingleUse.select (h : SingleUse service raw s) (hraw : raw ≠ [])
    (hselect : selectUser s.db (service.hashToken raw) c.now = some user)
    (halone : ∀ call, ¬ Has s.calls (Call.selects raw) call) :
    SingleUse service raw (s.set call (.selected raw user)) := by
  have hlive : ¬ Spent s.db (service.hashToken raw) := by
    intro hspent
    rw [hspent.selectUser_eq_none] at hselect
    cases hselect
  have hunused : ∀ query, ¬ Has (s.calls.insert call (.selected raw user)) (Call.uses raw) query := by
    intro query hhas
    exact hlive (h.spent query (has_of_insert rfl hhas))
  have hnew : ∀ {query}, Has (s.calls.insert call (.selected raw user)) (Call.selects raw) query → query = call := by
    intro query hhas
    obtain ⟨hsame, _⟩ | ⟨_, hold⟩ := has_insert.mp hhas
    · exact hsame
    · exact absurd hold (halone query)
  refine ⟨fun _ _ hcall hcall' => (hnew hcall).trans (hnew hcall').symm, fun _ _ hcall => absurd hcall (hunused _),
    fun _ _ _ => hunused _, fun _ _ => hraw, fun _ hcall => absurd hcall (hunused _), fun query hhas => ?_⟩
  exact absurd ((h.ended query (has_of_insert rfl hhas)).2 hraw) hlive

/-- The one call that found the token revokes it. -/
theorem SingleUse.revokeUsed (h : SingleUse service raw s) {now : Time}
    (hphase : s.calls.lookup call = some (.selected raw user)) :
    SingleUse service raw
      ({ s with db := revokeUsed s.db (service.hashToken raw) now }.set call (.revoked raw user)) := by
  have hselected : Has s.calls (Call.selects raw) call := ⟨_, hphase, decide_eq_true rfl⟩
  have hpending : Has s.calls (Call.pending raw) call := ⟨_, hphase, decide_eq_true rfl⟩
  have hnone : ∀ query, ¬ Has (s.calls.insert call (.revoked raw user)) (Call.selects raw) query := by
    intro query hhas
    obtain ⟨_, hp⟩ | ⟨hother, hold⟩ := has_insert.mp hhas
    · cases hp
    · exact hother (h.one_selects _ _ hold hselected)
  have hown : ∀ {query}, Has (s.calls.insert call (.revoked raw user)) (Call.uses raw) query → query = call := by
    intro query hhas
    obtain ⟨hsame, _⟩ | ⟨_, hold⟩ := has_insert.mp hhas
    · exact hsame
    · exact absurd hold (h.apart _ _ hselected)
  refine ⟨fun _ _ hcall => absurd hcall (hnone _), fun _ _ hcall hcall' => (hown hcall).trans (hown hcall').symm,
    fun _ _ hcall => absurd hcall (hnone _), fun _ _ => h.nonempty _ hpending,
    fun _ _ => spent_revokeUsed _ _ _, fun query hhas => ?_⟩
  exact absurd hpending ((h.ended query (has_of_insert rfl hhas)).1 call)

/-- A `Logout` while no `Refresh` is under way. -/
theorem SingleUse.logout (h : SingleUse service raw s) (halone : ∀ call, ¬ Has s.calls (Call.pending raw) call) :
    SingleUse service raw
      ({ s with db := (service.logout s.db raw c).2 }.set call (.loggedOut raw (service.logout s.db raw c).1)) := by
  have hselects : ∀ query, Has (s.calls.insert call (.loggedOut raw (service.logout s.db raw c).1)) (Call.selects raw)
      query → Has s.calls (Call.selects raw) query := fun _ => has_of_insert rfl
  have huses : ∀ query, Has (s.calls.insert call (.loggedOut raw (service.logout s.db raw c).1)) (Call.uses raw)
      query → Has s.calls (Call.uses raw) query := fun _ => has_of_insert rfl
  have hpending : ∀ query, ¬ Has (s.calls.insert call (.loggedOut raw (service.logout s.db raw c).1))
      (Call.pending raw) query := fun query hhas => halone query (has_of_insert rfl hhas)
  refine ⟨fun _ _ hcall hcall' => h.one_selects _ _ (hselects _ hcall) (hselects _ hcall'),
    fun _ _ hcall hcall' => h.one_uses _ _ (huses _ hcall) (huses _ hcall'),
    fun _ _ hcall hcall' => h.apart _ _ (hselects _ hcall) (huses _ hcall'),
    fun _ hcall => absurd hcall (hpending _), fun _ hcall => (h.spent _ (huses _ hcall)).logout raw,
    fun query hhas => ⟨hpending, fun hraw => ?_⟩⟩
  obtain ⟨_, hp⟩ | ⟨_, hended⟩ := has_insert.mp hhas
  · simp only [Service.logout, if_neg hraw] at hp ⊢
    split at hp
    · cases hp
    · exact spent_revokeUnused _ _ _
  · exact ((h.ended query hended).2 hraw).logout raw

theorem SingleUse.step (h : SingleUse service raw s) (hapart : staysApart s e = true)
    (hstep : s.step service e = some next) : SingleUse service raw next := by
  cases Calls.step_cases hstep with
  | refused => exact h.move rfl nofun rfl rfl fun _ _ hspent => hspent
  | @select _ presented c user _ hraw hselect =>
    by_cases hsame : presented = raw
    · subst hsame
      exact h.select hraw hselect fun call => not_has_of_any (Bool.not_eq_true' _ |>.mp hapart)
    · have hother : decide (presented = raw) = false := decide_eq_false hsame
      exact h.move hother nofun hother rfl fun _ _ hspent => hspent
  | failed => exact h.move rfl nofun rfl rfl fun _ _ hspent => hspent
  | @revokeUsed call presented user c hphase =>
    by_cases hsame : presented = raw
    · subst hsame
      exact h.revokeUsed hphase
    · have hother : decide (presented = raw) = false := decide_eq_false hsame
      refine h.move rfl (fun huses => ?_) hother rfl fun _ _ hspent => hspent.revokeUsed _
      exact absurd (of_decide_eq_true huses) hsame
  | @issue call presented user c result hphase hfresh =>
    refine h.move rfl (fun huses => ⟨_, hphase, ?_⟩) rfl rfl fun _ hpresented hspent => ?_
    · cases result with
      | ok pair => exact huses
      | error err => cases huses
    · exact spent_issue hfresh _ hpresented hspent
  | @logout call presented c _ =>
    by_cases hsame : presented = raw
    · subst hsame
      exact h.logout fun call => not_has_of_any (Bool.not_eq_true' _ |>.mp hapart)
    · refine h.move rfl nofun rfl ?_ fun _ _ hspent => hspent.logout presented
      cases (service.logout s.db presented c).1 with
      | none => exact decide_eq_false hsame
      | some err => rfl
  | login hfresh =>
    exact h.mono (fun _ => id) (fun _ => id) (fun _ => id) (fun _ => id) fun _ hpresented hspent =>
      spent_issue hfresh _ hpresented hspent
  | users => exact h.mono (fun _ => id) (fun _ => id) (fun _ => id) (fun _ => id) fun _ _ hspent => hspent

theorem singleUse_of_run (hrun : run (Calls.step service) (.start db) events = some s)
    (hapart : AllSteps (Calls.step service) (fun s e => staysApart s e = true) (.start db) events) (raw : GoString) :
    SingleUse service raw s := by
  apply run_induction_of_steps (P := fun _ s => SingleUse service raw s) _ _ hrun hapart
  · have hnone : ∀ {p call}, ¬ Has (Calls.start db).calls p call := by
      rintro p call ⟨_, ⟨⟩, _⟩
    exact ⟨fun _ _ h => absurd h hnone, fun _ _ h => absurd h hnone, fun _ _ h => absurd h hnone,
      fun _ h => absurd h hnone, fun _ h => absurd h hnone, fun _ h => absurd h hnone⟩
  · exact fun _ _ _ _ _ h hallowed hstep => h.step hallowed hstep

/-- As long as the calls that present one token stay apart, at most one `Refresh` of it returns a new pair of tokens,
    and none does whose last statement runs after a `Logout` of it has returned. -/
theorem refresh_once (hrun : run (Calls.step service) (.start db) events = some s)
    (hapart : AllSteps (Calls.step service) (fun s e => staysApart s e = true) (.start db) events) (raw : GoString) :
    (∀ call call' pair pair', s.calls.lookup call = some (.returned raw (.ok pair)) →
      s.calls.lookup call' = some (.returned raw (.ok pair')) → call = call') ∧
    ∀ logout, s.calls.lookup logout = some (.loggedOut raw none) → ∀ e next, s.step service e = some next →
      ∀ call pair, next.calls.lookup call = some (.returned raw (.ok pair)) →
        s.calls.lookup call = some (.returned raw (.ok pair)) := by
  have hsingle := singleUse_of_run hrun hapart raw
  refine ⟨fun call call' pair pair' hcall hcall' => ?_, fun logout hlogout e next hstep call pair hpair => ?_⟩
  · exact hsingle.one_uses _ _ ⟨_, hcall, decide_eq_true rfl⟩ ⟨_, hcall', decide_eq_true rfl⟩
  · obtain ⟨hnone, _⟩ := hsingle.ended logout ⟨_, hlogout, decide_eq_true rfl⟩
    have hother : ∀ {acting : Nat} {state : Call}, next.calls = s.calls.insert acting state →
        state ≠ .returned raw (.ok pair) → s.calls.lookup call = some (.returned raw (.ok pair)) := by
      intro acting state hnext hstate
      rw [hnext, Map.lookup_insert_eq] at hpair
      split at hpair
      · exact absurd (Option.some.inj hpair) hstate
      · exact hpair
    cases Calls.step_cases hstep with
    | refused | select | failed | revokeUsed | logout => exact hother rfl nofun
    | issue hphase =>
      refine hother rfl ?_
      rintro ⟨⟩
      exact hnone _ ⟨_, hphase, decide_eq_true rfl⟩
    | login | users => exact hpair

theorem exists_pair (huses : state.uses raw = true) (hdone : state.pending raw = false) :
    ∃ pair, state = .returned raw (.ok pair) := by
  cases state with
  | revoked presented user => exact absurd huses (Bool.eq_false_iff.mp hdone)
  | returned presented result =>
    cases result with
    | ok pair =>
      obtain rfl : presented = raw := of_decide_eq_true huses
      exact ⟨pair, rfl⟩
    | error err => cases huses
  | _ => cases huses

def sampleService : Service :=
  { hashToken := fun raw => lit "hmac-" ++ raw, compareHashAndPassword := fun hash password => hash = lit "bcrypt-" ++ password
    refreshTTL := 2592000000000000 }

/-- One user, with one refresh token. -/
def sampleDatabase : Database :=
  { users := (∅ : sql.Table GoString UserRow).insert (lit "usr_1")
      { email := lit "anna@example.com", passwordHash := lit "bcrypt-secret", status := .active }
    refreshTokens := (∅ : sql.Table GoString RefreshTokenRow).insert (lit "hmac-first")
      { userID := lit "usr_1", expiresAt := 1000, revokedAt := none } }

/-- A call whose statements all succeed. -/
def undisturbed (now : Time) (refreshToken : GoString) : Circumstances :=
  { now, query := none, update := none, generated := .ok (lit "jwt", refreshToken), store := none }

/-- A `Refresh`, another one that comes later, and a `Logout`. -/
def refreshesInTurn : List CallEvent :=
  [.select 1 (lit "first") (undisturbed 1 []), .revokeUsed 1 (undisturbed 2 []),
    .issue 1 (undisturbed 3 (lit "second")), .select 2 (lit "first") (undisturbed 4 []),
    .logout 3 (lit "first") (undisturbed 5 [])]

theorem refresh_once_in_turn :
    ∃ s pair, run (Calls.step sampleService) (.start sampleDatabase) refreshesInTurn = some s ∧
      s.calls.lookup 1 = some (.returned (lit "first") (.ok pair)) ∧
      ∀ call pair', s.calls.lookup call = some (.returned (lit "first") (.ok pair')) → 1 = call := by
  have hfacts : (run (Calls.step sampleService) (.start sampleDatabase) refreshesInTurn).any (fun s =>
      (s.calls.lookup 1).any fun state => state.uses (lit "first") && !state.pending (lit "first")) = true := by
    decide +kernel
  obtain ⟨s, hrun, hcall⟩ := (Option.any_eq_true _ _).mp hfacts
  obtain ⟨state, hlookup, hstate⟩ := (Option.any_eq_true _ _).mp hcall
  rw [Bool.and_eq_true, Bool.not_eq_true'] at hstate
  obtain ⟨pair, rfl⟩ := exists_pair hstate.1 hstate.2
  have hapart : AllSteps (Calls.step sampleService) (fun s e => staysApart s e = true) (.start sampleDatabase)
      refreshesInTurn := by decide +kernel
  exact ⟨s, pair, hrun, hlookup, fun call pair' hcall => (refresh_once hrun hapart _).1 _ _ _ _ hlookup hcall⟩

/-- Two calls look the token up before either revokes it: both return a new pair. And a call that looked it up before a
    `Logout` returns a new pair after it. -/
theorem refresh_twice :
    (∃ s pair pair', run (Calls.step sampleService) (.start sampleDatabase)
        [.select 1 (lit "first") (undisturbed 1 []), .select 2 (lit "first") (undisturbed 1 []),
          .revokeUsed 1 (undisturbed 2 []), .revokeUsed 2 (undisturbed 2 []),
          .issue 1 (undisturbed 3 (lit "second")), .issue 2 (undisturbed 3 (lit "third"))] = some s ∧
      s.calls.lookup 1 = some (.returned (lit "first") (.ok pair)) ∧
      s.calls.lookup 2 = some (.returned (lit "first") (.ok pair'))) ∧
    ∃ s next pair, run (Calls.step sampleService) (.start sampleDatabase)
        [.select 1 (lit "first") (undisturbed 1 []), .logout 2 (lit "first") (undisturbed 2 []),
          .revokeUsed 1 (undisturbed 3 [])] = some s ∧
      s.calls.lookup 2 = some (.loggedOut (lit "first") none) ∧
      s.step sampleService (.issue 1 (undisturbed 4 (lit "second"))) = some next ∧
      next.calls.lookup 1 = some (.returned (lit "first") (.ok pair)) :=
  ⟨⟨_, _, _, rfl, rfl, rfl⟩, _, _, _, rfl, rfl, rfl, rfl⟩

end myngrok.auth
