import Myngrok.Server.LiveRoutes
import Myngrok.Tunnels.RegistryRuns

open golang transition myngrok.protocol myngrok.gateway myngrok.agents myngrok.tunnels

namespace myngrok.server

variable {baseDomain : GoString} {s next : Server} {e : ServerEvent} {events : List ServerEvent}
  {sessionID agentID query : GoString} {phase phase' : Phase} {t : ActiveTunnel}

/-- The deferred `CloseSession` of the connection is behind it. -/
def Phase.departed : Phase → Bool
  | .unrouted => true
  | .closed => true
  | .gone => true
  | _ => false

theorem Phase.of_departed (h : phase.departed = true) : phase.mayLeave = false ∧ phase.routed = false := by
  cases phase <;> first | exact ⟨rfl, rfl⟩ | cases h

def Departed (connections : Map GoString Connection) (sessionID : GoString) : Prop :=
  ∃ c, connections.lookup sessionID = some c ∧ c.phase.departed = true

theorem Departed.move (h : Departed s.connections query)
    (hphase : s.connections.lookup sessionID = some { agentID, phase })
    (hkept : phase.departed = true → phase'.departed = true) :
    Departed (s.setPhase sessionID agentID phase').connections query := by
  obtain ⟨c, hlookup, hdeparted⟩ := h
  rw [Departed, Server.setPhase_lookup]
  split
  · rename_i hsame
    rw [hsame, hphase] at hlookup
    cases hlookup
    exact ⟨_, rfl, hkept hdeparted⟩
  · exact ⟨c, hlookup, hdeparted⟩

/-- A connection that has closed its routes never gets back. -/
theorem Departed.step (h : Departed s.connections query) (hstep : s.step baseDomain e = some next) :
    Departed next.connections query := by
  cases Server.step_cases hstep with
  | rejected => exact h
  | connect hnew =>
    obtain ⟨c, hlookup, hdeparted⟩ := h
    refine ⟨c, ?_, hdeparted⟩
    rw [Server.setPhase_lookup, if_neg]
    · exact hlookup
    · rintro rfl
      rw [AList.lookup_eq_none.mpr hnew] at hlookup
      cases hlookup
  | register hphase | missing hphase | reopen hphase | create hphase | route hphase | answer hphase | remove hphase
  | closeRoutes hphase => exact h.move hphase nofun
  | leave hphase hleave =>
    refine h.move hphase fun hdeparted => ?_
    rw [(Phase.of_departed hdeparted).1] at hleave
    cases hleave
  | closeTunnels hphase | disconnect hphase => exact h.move hphase fun _ => rfl
  | restart =>
    obtain ⟨c, hlookup, _⟩ := h
    refine ⟨{ c with phase := .gone }, ?_, rfl⟩
    rw [sql.lookup_update, hlookup]
    rfl

theorem departed_of_run {start : Server} (hstart : Departed start.connections sessionID)
    (hrun : run (Server.step baseDomain) start events = some s) : Departed s.connections sessionID :=
  run_induction (P := fun _ s => Departed s.connections sessionID) hstart
    (fun _ _ _ _ _ h hstep => h.step hstep) hrun

/-- A route never belongs to a connection that has closed its routes. -/
theorem Sound.not_departed (h : Sound s) {subdomain : GoString} (hrouted : s.registry.get subdomain = some t) :
    ¬ Departed s.connections t.sessionID := by
  obtain ⟨_, phase, hlookup, hphase⟩ := h.routes subdomain t hrouted
  rintro ⟨c, hother, hdeparted⟩
  rw [hlookup] at hother
  cases hother
  rw [(Phase.of_departed hdeparted).2] at hphase
  cases hphase

/-- The registry of the gateway is a registry, and the tunnels opened in it are rows of the table. -/
def History (s : Server) (history : List RegistryEvent) : Prop :=
  run Registry.step newRegistry history = some s.registry ∧ ∀ t, .open t ∈ history → Backed s.tunnels t

theorem History.step {history : List RegistryEvent} (h : History s history) (hsound : Sound s)
    (hstep : s.step baseDomain e = some next) : ∃ history, History next history := by
  obtain ⟨hrun, hback⟩ := h
  have hbacked : ∀ t, .open t ∈ history → Backed next.tunnels t := fun t hmem => (hback t hmem).step hstep
  cases Server.step_cases hstep with
  | @route sessionID agentID payload tunnel hphase =>
    refine ⟨history ++ [.open tunnel], run_concat_eq_some.mpr ⟨_, hrun, rfl⟩, fun t hmem => ?_⟩
    rw [List.mem_append, List.mem_singleton] at hmem
    obtain hmem | hmem := hmem
    · exact hbacked t hmem
    · cases hmem
      exact ((hsound.opens _ _ hphase).tunnel _ rfl).2.2
  | @closeRoutes sessionID agentID order hphase horder =>
    refine ⟨history ++ [.closeSession sessionID order], run_concat_eq_some.mpr ⟨_, hrun, ?_⟩, fun t hmem => ?_⟩
    · exact if_pos horder
    · rw [List.mem_append, List.mem_singleton] at hmem
      obtain hmem | hmem := hmem
      · exact hbacked t hmem
      · cases hmem
  | restart => exact ⟨[], rfl, by rintro _ ⟨⟩⟩
  | _ => exact ⟨history, hrun, hbacked⟩

/-- The IDs and subdomains that the gateway opens belong to each other, since the table keeps them unique. -/
theorem history_of_run (hrun : run (Server.step baseDomain) Server.start events = some s) :
    ∃ history, OneToOne history ∧ run Registry.step newRegistry history = some s.registry := by
  have hhistory : ∃ history, History s history := by
    apply run_induction (P := fun _ s => ∃ history, History s history) _ _ hrun
    · exact ⟨[], rfl, by rintro _ ⟨⟩⟩
    · rintro events s e next hrun ⟨history, hhistory⟩ hstep
      exact hhistory.step (sound_of_run hrun) hstep
  obtain ⟨history, hregistry, hback⟩ := hhistory
  refine ⟨history, fun t t' hmem hmem' => ?_, hregistry⟩
  exact (sound_of_run hrun).id_eq_iff (hback t' hmem') (hback t hmem)

/-- After any calls, the maps of a registry are inverse to each other, `Count` counts the subdomains that are routed,
    `Close` takes out the one route, and `CloseSession` those whose most recent `Open` carried the session. The registry
    of the gateway is one of these; and a session whose cleanup is behind it has no routes, then or later. -/
theorem registry_faithful :
    (∀ (events : List RegistryEvent) (r : Registry), OneToOne events →
      run Registry.step newRegistry events = some r →
      (∀ id subdomain, r.byID.lookup id = some subdomain ↔ ∃ t, r.get subdomain = some t ∧ t.id = id) ∧
      (∃ routable : List GoString, routable.Nodup ∧ (∀ subdomain, subdomain ∈ routable ↔ (r.get subdomain).isSome) ∧
        r.count = routable.length) ∧
      (∀ id subdomain t, (r.close id).2.get subdomain = some t ↔ r.get subdomain = some t ∧ t.id ≠ id) ∧
      (∀ sessionID order, order.Perm r.byID.keys → ∀ subdomain t,
        (r.closeSession sessionID order).get subdomain = some t ↔
          r.get subdomain = some t ∧ (lastOpen events subdomain).map ActiveTunnel.sessionID ≠ some sessionID)) ∧
    ∀ (baseDomain : GoString) (events : List ServerEvent) (s : Server),
      run (Server.step baseDomain) Server.start events = some s →
      (∃ history, OneToOne history ∧ run Registry.step newRegistry history = some s.registry) ∧
      ∀ before sessionID order after, events = before ++ .closeRoutes sessionID order :: after →
        ∀ subdomain t, s.registry.get subdomain = some t → t.sessionID ≠ sessionID := by
  refine ⟨fun events r hpairs hrun => ?_, fun baseDomain events s hrun => ⟨history_of_run hrun, ?_⟩⟩
  · obtain ⟨⟨hconsistent, _⟩, hlast⟩ := Registry.represents_of_run hpairs hrun
    refine ⟨fun id subdomain => ⟨hconsistent.routed id subdomain, ?_⟩, ?_, fun id => (hconsistent.close id).2, ?_⟩
    · rintro ⟨t, hrouted, rfl⟩
      exact (hconsistent.indexed _ _ hrouted).2
    · refine ⟨r.bySubdomain.keys, r.bySubdomain.keys_nodup, fun subdomain => ?_, hconsistent.count_eq⟩
      rw [← AList.mem_keys, Registry.get, AList.lookup_isSome]
    · intro sessionID order horder subdomain t
      rw [Registry.get, (hconsistent.closeSession horder sessionID).2, Registry.get]
      refine and_congr_right fun hrouted => ?_
      rw [hlast _ _ hrouted, Option.map_some, ne_eq, ne_eq, Option.some.injEq]
  · rintro before sessionID order after rfl subdomain t hrouted rfl
    obtain ⟨middle, hbefore, hrest⟩ := exists_run_of_append hrun
    obtain ⟨closed, hstep, hafter⟩ := Option.bind_eq_some_iff.mp ((run_cons _ _).symm.trans hrest)
    refine (sound_of_run hrun).not_departed hrouted (departed_of_run ?_ hafter)
    cases Server.step_cases hstep with
    | closeRoutes hphase => exact ⟨_, (Server.setPhase_lookup _ _ _ _ _).trans (if_pos rfl), rfl⟩

theorem registry_faithful_reconnect :
    ∃ s t, run (Server.step (lit "tunnel.example")) Server.start laptopReconnects = some s ∧
      s.registry.get (lit "sub-ses_1") = some t ∧ t.sessionID ≠ lit "ses_1" ∧
      s.registry.byID.lookup t.id = some (lit "sub-ses_1") := by
  have hfacts : (run (Server.step (lit "tunnel.example")) Server.start laptopReconnects).map (fun s =>
      (s.registry.get (lit "sub-ses_1")).isSome) = some true := by decide +kernel
  obtain ⟨s, hrun, hrouted⟩ := Option.map_eq_some_iff.mp hfacts
  obtain ⟨t, ht⟩ := Option.isSome_iff_exists.mp hrouted
  obtain ⟨⟨history, hpairs, hregistry⟩, hcleaned⟩ := registry_faithful.2 _ _ s hrun
  refine ⟨s, t, hrun, ht, ?_, ((registry_faithful.1 history _ hpairs hregistry).1 _ _).mpr ⟨t, ht, rfl⟩⟩
  exact hcleaned (laptopConnects (lit "ses_1") ++ laptopOpens (lit "ses_1") none 1 ++
    [.leave (lit "ses_1"), .remove (lit "ses_1")]) _ [lit "tun_ses_1"] _ rfl _ t ht

end myngrok.server
