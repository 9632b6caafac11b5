import Myngrok.Auth.Accounts
import Myngrok.Auth.Refresh

open golang transition

namespace myngrok.auth

/-- A token that is drawn after the call has presented its own is as new as before. -/
theorem Calls.drawsFresh_insert {service : Service} {s : Calls} {call : Nat} {c : Circumstances} (db : Database)
    {state : Call} (hfresh : s.drawsFresh service c = true) (hnew : call ∉ s.calls)
    (hown : ∀ accessToken refreshToken, c.generated = .ok (accessToken, refreshToken) →
      service.hashToken state.raw ≠ service.hashToken refreshToken) :
    ({ db, calls := s.calls.insert call state } : Calls).drawsFresh service c = true := by
  unfold drawsFresh at hfresh ⊢
  cases hgenerated : c.generated with
  | error err => rfl
  | ok drawn =>
    rw [hgenerated] at hfresh
    simp only [AList.entries_insert_of_notMem hnew, List.all_cons, Bool.and_eq_true]
    exact ⟨decide_eq_true (hown _ _ hgenerated), hfresh⟩

/-- `Refresh` is what its statements do in either model, as far as the call gets, when nothing comes in between. -/
theorem refresh_of_statements {service : AccessService} {a : Accounts} {s : Calls} {call : Nat} {raw : GoString}
    {c : Circumstances} {signing : Signing} {drawn : Except Error GoString} (hdb : s.db = a.db)
    (hnew : call ∉ a.calls ∧ call ∉ s.calls)
    (hdrawn : ∀ user, selectUser a.db (service.hashToken raw) c.now = some user →
      c.generated = service.generated user.id signing drawn) (hfresh : s.drawsFresh service.toService c = true)
    (hown : ∀ accessToken refreshToken, c.generated = .ok (accessToken, refreshToken) →
      service.hashToken raw ≠ service.hashToken refreshToken) :
    ∃ n signed, run (Accounts.step service) a ([.select call raw c.now c.query, .revokeUsed call c.now c.update,
        .issue call signing drawn c.now c.store].take n) =
          some ({ a with db := (service.refresh a.db raw c).2, signed }.set call
            (.returned (service.refresh a.db raw c).1)) ∧
      run (Calls.step service.toService) s ([.select call raw c, .revokeUsed call c, .issue call c].take n) =
        some ({ s with db := (service.refresh a.db raw c).2 }.set call
          (.returned raw (service.refresh a.db raw c).1)) := by
  obtain ⟨db, calls⟩ := s
  cases hdb
  by_cases hfound : raw ≠ [] ∧ c.query = none ∧ ∃ user, selectUser a.db (service.hashToken raw) c.now = some user
  swap
  · obtain ⟨hselect, hstep, hrefresh⟩ :
        Accounts.select service a.db raw c.now c.query = .returned (.error errUnauthorized) ∧
        Calls.step service.toService { db := a.db, calls } (.select call raw c) =
          some { db := a.db, calls := calls.insert call (.returned raw (.error errUnauthorized)) } ∧
        service.refresh a.db raw c = (.error errUnauthorized, a.db) := by
      by_cases hraw : raw = []
      · simp [Accounts.select, Calls.step, Calls.set, Service.refresh, hnew, hraw]
      · cases hquery : c.query <;> cases hselect : selectUser a.db (service.hashToken raw) c.now <;>
          simp_all [Accounts.select, Calls.step, Calls.set, Service.refresh]
    refine ⟨1, a.signed, ?_, ?_⟩
    · simp [run_cons, Accounts.step, hnew, hselect, hrefresh]
    · simp [run_cons, Calls.set, hstep, hrefresh]
  obtain ⟨hraw, hquery, user, hselect⟩ := hfound
  cases hupdate : c.update with
  | some err =>
    refine ⟨2, a.signed, ?_, ?_⟩
    · simp [run_cons, Accounts.step, Accounts.select, Accounts.set, hnew, hraw, hselect, hquery, Service.refresh, hupdate]
    · simp [run_cons, Calls.step, Calls.set, hnew, hraw, hquery, hselect, hupdate, Service.refresh]
  | none =>
    have hissue : { now := c.now, query := none, update := none, generated := service.generated user.id signing drawn
                    store := c.store } = c := by
      rw [← hdrawn user hselect]
      cases c
      simp_all
    have hdraws : Calls.drawsFresh service.toService
        { db := revokeUsed a.db (service.hashToken raw) c.now, calls := calls.insert call (.revoked raw user) } c = true :=
      Calls.drawsFresh_insert _ hfresh hnew.2 hown
    obtain ⟨result, db, hresult⟩ : ∃ result db,
        service.issue (revokeUsed a.db (service.hashToken raw) c.now) user.id c = (result, db) := ⟨_, _, rfl⟩
    refine ⟨3, service.claims user.id signing :: a.signed, ?_, ?_⟩
    · cases result <;> simp [run_cons, Accounts.step, Accounts.select, Accounts.set, AccountCall.issues, hnew, hraw,
        hselect, hquery, Service.refresh, hupdate, hissue, hresult, Except.map]
    · cases result <;> simp [run_cons, Calls.step, Calls.set, hnew, hraw, hquery, hselect, hupdate, Service.refresh,
        hdraws, hresult]

/-- The sample service with access tokens. -/
def sampleAccess : AccessService := { sampleService with hmac := fun _ _ => [], accessSecret := [], accessTTL := minute }

theorem refresh_of_statements_first :
    let c := { undisturbed 1 [] with
      generated := sampleAccess.generated (lit "usr_1") { issuedAt := 1, expiresFrom := 1 } (.ok (lit "second")) }
    ∃ n signed, run (Accounts.step sampleAccess) { Accounts.start with db := sampleDatabase }
        ([.select 7 (lit "first") 1 none, .revokeUsed 7 1 none,
          .issue 7 { issuedAt := 1, expiresFrom := 1 } (.ok (lit "second")) 1 none].take n) =
      some ({ Accounts.start with db := (sampleAccess.refresh sampleDatabase (lit "first") c).2, signed }.set 7
        (.returned (sampleAccess.refresh sampleDatabase (lit "first") c).1)) ∧
      ((sampleAccess.refresh sampleDatabase (lit "first") c).1.toOption).isSome = true := by
  intro c
  have hown : ∀ accessToken refreshToken, c.generated = .ok (accessToken, refreshToken) →
      sampleAccess.hashToken (lit "first") ≠ sampleAccess.hashToken refreshToken := by
    rintro _ _ ⟨⟩
    decide
  have hdrawn : ∀ user, selectUser sampleDatabase (sampleAccess.hashToken (lit "first")) c.now = some user →
      c.generated = sampleAccess.generated user.id { issuedAt := 1, expiresFrom := 1 } (.ok (lit "second")) := by
    rintro user ⟨⟩
    rfl
  have hnew : 7 ∉ Accounts.start.calls ∧ 7 ∉ (Calls.start sampleDatabase).calls := ⟨List.not_mem_nil, List.not_mem_nil⟩
  obtain ⟨n, signed, hrun, -⟩ := refresh_of_statements (a := { Accounts.start with db := sampleDatabase })
    (s := .start sampleDatabase) rfl hnew hdrawn rfl hown
  exact ⟨n, signed, hrun, by decide +kernel⟩

end myngrok.auth
