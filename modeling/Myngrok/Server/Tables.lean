import Myngrok.Server.Lifecycle

open golang myngrok.protocol myngrok.gateway myngrok.agents myngrok.tunnels

namespace myngrok.server

variable {baseDomain id : GoString} {s next : Server} {e : ServerEvent}

/-- Every subdomain belongs to one row: `subdomain` is `UNIQUE`. -/
def OneSubdomainEach (tunnels : Tunnels) : Prop :=
  ∀ id id' key key', identity tunnels id = some key → identity tunnels id' = some key' → key.2.1 = key'.2.1 → id = id'

/-- No step changes what a row of `tunnels` stands for. -/
theorem identity_step (hstep : s.step baseDomain e = some next) {key : GoString × GoString × GoString}
    (h : identity s.tunnels id = some key) : identity next.tunnels id = some key := by
  cases Server.step_cases hstep with
  | reopen => exact identity_reopen.trans h
  | create _ hcreate _ =>
    refine (identity_create hcreate).trans ?_
    obtain ⟨_, _, _, hnew, _⟩ := create_eq_some hcreate
    rw [if_neg, h]
    rintro rfl
    rw [identity, AList.lookup_eq_none.mpr hnew] at h
    cases h
  | @closeTunnels _ _ _ succeeds =>
    cases succeeds with
    | false => exact h
    | true => exact identity_closeAgentTunnels.trans h
  | _ => exact h

/-- No step changes what a row of `agents` stands for. -/
theorem installation_step (hstep : s.step baseDomain e = some next) {key : GoString × GoString}
    (h : installation s.agents id = some key) : installation next.agents id = some key := by
  cases Server.step_cases hstep with
  | connect _ hfresh _ hconnect =>
    obtain ⟨row, _, rfl, hrow⟩ := connect_eq_ok hconnect
    show installation (s.agents.insert _ row) id = some key
    rw [installation, Map.lookup_insert_eq]
    split
    · rename_i hsame
      subst hsame
      obtain hold | ⟨rfl, _⟩ := hrow
      · rw [← h, hold]
        rfl
      · rw [installation, AList.lookup_eq_none.mpr hfresh] at h
        cases h
    · exact h
  | @disconnect _ agentID succeeds _ =>
    show installation (if _ then _ else _) id = some key
    split
    · exact (installation_disconnect _ _ _).trans h
    · exact h
  | _ => exact h

/-- One row of `agents` for each installation, before and after. -/
theorem oneRowEach_step (h : OneRowEach s.agents) (hstep : s.step baseDomain e = some next) :
    OneRowEach next.agents := by
  cases Server.step_cases hstep with
  | @connect _ _ _ _ agentID _ _ hfresh _ hconnect =>
    obtain ⟨row, _, rfl, hrow⟩ := connect_eq_ok hconnect
    -- The row that is written has an installation that no other row has.
    have hother : ∀ id, id ≠ agentID → installation s.agents id ≠ some row.installation := by
      intro id hne hsame
      obtain hold | ⟨_, hnone⟩ := hrow
      · exact hne (h _ _ _ hsame hold)
      · exact hnone id hsame
    intro id id' key hid hid'
    rw [installation, Server.setPhase, Map.lookup_insert_eq] at hid hid'
    split at hid <;> split at hid' <;> rename_i hsame hsame'
    · exact hsame.trans hsame'.symm
    · cases hid
      exact absurd hid' (hother id' hsame')
    · cases hid'
      exact absurd hid (hother id hsame)
    · exact h id id' key hid hid'
  | @disconnect _ agentID succeeds _ =>
    intro id id' key hid hid'
    have hsame : ∀ id, installation (if succeeds = true ∧ agentID ≠ [] then agents.disconnect s.agents agentID
        else s.agents) id = installation s.agents id := by
      intro id
      split
      · exact installation_disconnect _ _ _
      · rfl
    exact h id id' key ((hsame id).symm.trans hid) ((hsame id').symm.trans hid')
  | _ => exact h

theorem oneSubdomainEach_step (h : OneSubdomainEach s.tunnels) (hstep : s.step baseDomain e = some next) :
    OneSubdomainEach next.tunnels := by
  cases Server.step_cases hstep with
  | reopen =>
    intro id id' key key' hid hid'
    exact h id id' key key' (identity_reopen.symm.trans hid) (identity_reopen.symm.trans hid')
  | @create _ _ agentID subdomain new _ _ _ _ _ hcreate _ =>
    obtain ⟨_, _, _, _, hunused, _⟩ := create_eq_some hcreate
    have hother : ∀ {id key}, identity s.tunnels id = some key → key.2.1 ≠ subdomain := by
      intro id key hid
      obtain ⟨row, hlookup, rfl⟩ := Option.map_eq_some_iff.mp hid
      exact hunused id row hlookup
    intro id id' key key' hid hid' hsame
    rw [Server.setPhase, identity_create hcreate] at hid hid'
    split at hid <;> split at hid' <;> rename_i hnew hnew'
    · exact hnew.trans hnew'.symm
    · cases hid
      exact absurd hsame.symm (hother hid')
    · cases hid'
      exact absurd hsame (hother hid)
    · exact h id id' key key' hid hid' hsame
  | @closeTunnels _ _ _ succeeds =>
    cases succeeds with
    | false => exact h
    | true =>
      intro id id' key key' hid hid'
      exact h id id' key key' (identity_closeAgentTunnels.symm.trans hid) (identity_closeAgentTunnels.symm.trans hid')
  | _ => exact h

end myngrok.server
