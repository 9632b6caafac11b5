import Mathlib.Algebra.BigOperators.Group.Finset.Piecewise
import Myngrok.Tunnels.RegistryRuns

open golang transition

namespace myngrok.tunnels

namespace TrafficMetrics

instance : Zero TrafficMetrics := ⟨.zero⟩

/-- Counters add up modulo `2^64`. -/
instance : Add TrafficMetrics where
  add m m' :=
    { requestsTotal := m.requestsTotal + m'.requestsTotal
      requestBytes := m.requestBytes + m'.requestBytes
      responseBytes := m.responseBytes + m'.responseBytes }

/-- The traffic of one request. -/
def ofRequest (requestBytes responseBytes : Int) : TrafficMetrics :=
  { requestsTotal := 1
    requestBytes := UInt64.ofNat (max 0 requestBytes).toNat
    responseBytes := UInt64.ofNat (max 0 responseBytes).toNat }

instance : AddCommMonoid TrafficMetrics where
  add_assoc a b c := TrafficMetrics.mk.injEq .. ▸
    ⟨UInt64.add_assoc _ _ _, UInt64.add_assoc _ _ _, UInt64.add_assoc _ _ _⟩
  add_comm a b := TrafficMetrics.mk.injEq .. ▸ ⟨UInt64.add_comm _ _, UInt64.add_comm _ _, UInt64.add_comm _ _⟩
  zero_add a := TrafficMetrics.mk.injEq .. ▸ ⟨UInt64.zero_add _, UInt64.zero_add _, UInt64.zero_add _⟩
  add_zero a := TrafficMetrics.mk.injEq .. ▸ ⟨UInt64.add_zero _, UInt64.add_zero _, UInt64.add_zero _⟩
  nsmul := nsmulRec

theorem add_eq (m : TrafficMetrics) (requestBytes responseBytes : Int) :
    m.add requestBytes responseBytes = m + ofRequest requestBytes responseBytes := by
  have hcount : ∀ (counter : UInt64) (bytes : Int), (if bytes > 0 then counter + UInt64.ofNat bytes.toNat
      else counter) = counter + UInt64.ofNat (max 0 bytes).toNat := by
    intro counter bytes
    split
    · rename_i hpos
      rw [max_eq_right (le_of_lt hpos)]
    · rename_i hneg
      rw [max_eq_left (not_lt.mp hneg)]
      exact (UInt64.add_zero counter).symm
  rw [TrafficMetrics.add, hcount, hcount]
  rfl

end TrafficMetrics

/-- The entry of a user in a map of deltas; Go's zero value when there is none. -/
def userDelta (user : GoString) (deltas : Map GoString TrafficMetrics) : TrafficMetrics := (deltas.lookup user).getD 0

/-- The map that a call of `DrainUserDeltas` returns. -/
def Registry.drains (r : Registry) : RegistryEvent → List (Map GoString TrafficMetrics)
  | .drainUserDeltas => [r.drainUserDeltas.1]
  | _ => []

/-- All of them. -/
def drained (events : List RegistryEvent) : List (Map GoString TrafficMetrics) :=
  outputs Registry.step Registry.drains newRegistry events

/-- A request for a tunnel that is open: its owner, and its traffic. -/
def OpenTunnels.charge (tunnels : OpenTunnels) : RegistryEvent → List (GoString × TrafficMetrics)
  | .recordTraffic tunnelID requestBytes responseBytes =>
    match tunnels tunnelID with
    | some tunnel => [(tunnel.userID, .ofRequest requestBytes responseBytes)]
    | none => []
  | _ => []

def OpenTunnels.step (tunnels : OpenTunnels) (e : RegistryEvent) : Option OpenTunnels := some (tunnels.next e)

/-- The calls of `RecordTraffic` that named a tunnel then open. -/
def recorded (events : List RegistryEvent) : List (GoString × TrafficMetrics) :=
  outputs OpenTunnels.step OpenTunnels.charge (fun _ => none) events

/-- What all of them add up to. -/
def total (charges : List (GoString × TrafficMetrics)) : TrafficMetrics := (charges.map Prod.snd).sum

/-- What those of one user add up to. -/
def totalFor (user : GoString) (charges : List (GoString × TrafficMetrics)) : TrafficMetrics :=
  total (charges.filter fun charge => charge.1 = user)

variable {r next : Registry} {events : List RegistryEvent} {e : RegistryEvent} {t : ActiveTunnel}
  {tunnels : OpenTunnels} {user tunnelID : GoString} {requestBytes responseBytes : Int}

theorem run_openTunnels (events : List RegistryEvent) :
    run OpenTunnels.step (fun _ => none) events = some (openTunnels events) := by
  induction events using List.reverseRecOn with
  | nil => rfl
  | append_singleton events e ih =>
    rw [run_concat_eq_some]
    exact ⟨_, ih, by rw [openTunnels_concat]; rfl⟩

theorem recorded_concat (events : List RegistryEvent) (e : RegistryEvent) :
    recorded (events ++ [e]) = recorded events ++ (openTunnels events).charge e :=
  outputs_concat (run_openTunnels events) e

theorem total_append (charges later : List (GoString × TrafficMetrics)) :
    total (charges ++ later) = total charges + total later := by
  rw [total, List.map_append, List.sum_append, total, total]

theorem totalFor_append (user : GoString) (charges later : List (GoString × TrafficMetrics)) :
    totalFor user (charges ++ later) = totalFor user charges + totalFor user later := by
  rw [totalFor, List.filter_append, total_append, totalFor, totalFor]

theorem totalFor_singleton (user owner : GoString) (m : TrafficMetrics) :
    totalFor user [(owner, m)] = if owner = user then m else 0 := by
  by_cases howner : owner = user <;> simp [totalFor, total, howner]

/-- The traffic of some users who own all of it is all of it. -/
theorem sum_totalFor {users : Finset GoString} {charges : List (GoString × TrafficMetrics)}
    (howners : ∀ charge ∈ charges, charge.1 ∈ users) : ∑ user ∈ users, totalFor user charges = total charges := by
  induction charges with
  | nil => exact Finset.sum_eq_zero fun _ _ => rfl
  | cons charge charges ih =>
    obtain ⟨owner, m⟩ := charge
    rw [List.forall_mem_cons] at howners
    have hfirst : ∀ user, totalFor user ((owner, m) :: charges) =
        (if owner = user then m else 0) + totalFor user charges := by
      intro user
      rw [← totalFor_singleton]
      exact totalFor_append user [(owner, m)] charges
    simp only [hfirst, Finset.sum_add_distrib, ih howners.2, Finset.sum_ite_eq, if_pos howners.1]
    rfl

namespace Registry

/-- What a call puts down to a user: `RecordTraffic` looks for the owner of the tunnel. -/
def charge (r : Registry) : RegistryEvent → List (GoString × TrafficMetrics)
  | .recordTraffic tunnelID requestBytes responseBytes =>
    match (r.byID.lookup tunnelID).bind r.bySubdomain.lookup with
    | some tunnel => if tunnel.userID = [] then [] else [(tunnel.userID, .ofRequest requestBytes responseBytes)]
    | none => []
  | _ => []

theorem recordTraffic_perUser (r : Registry) (tunnelID : GoString) (requestBytes responseBytes : Int)
    (user : GoString) : userDelta user (r.recordTraffic tunnelID requestBytes responseBytes).perUser =
      userDelta user r.perUser + totalFor user (r.charge (.recordTraffic tunnelID requestBytes responseBytes)) := by
  simp only [recordTraffic, charge]
  cases r.byID.lookup tunnelID with
  | none => exact (add_zero _).symm
  | some subdomain =>
    simp only [Option.bind_some]
    cases r.bySubdomain.lookup subdomain with
    | none => exact (add_zero _).symm
    | some tunnel =>
      dsimp only
      split
      · exact (add_zero _).symm
      · rw [totalFor_singleton, userDelta, Map.lookup_insert_eq]
        split <;> rename_i hsame
        · rw [if_pos hsame.symm, Option.getD_some, TrafficMetrics.add_eq, hsame]
          rfl
        · rw [if_neg (Ne.symm hsame), add_zero, userDelta]

theorem recordTraffic_traffic (r : Registry) (tunnelID : GoString) (requestBytes responseBytes : Int) :
    (r.recordTraffic tunnelID requestBytes responseBytes).traffic =
      if tunnelID ∈ r.byID then r.traffic + .ofRequest requestBytes responseBytes else r.traffic := by
  have hmem := Map.mem_iff_lookup r.byID tunnelID
  simp only [recordTraffic]
  cases hid : r.byID.lookup tunnelID with
  | none =>
    have habsent : tunnelID ∉ r.byID := by
      rw [hmem, hid]
      rintro ⟨subdomain, hsome⟩
      cases hsome
    rw [if_neg habsent]
  | some subdomain =>
    rw [if_pos (hmem.mpr ⟨subdomain, hid⟩), ← TrafficMetrics.add_eq]
    dsimp only
    cases r.bySubdomain.lookup subdomain with
    | none => rfl
    | some tunnel =>
      dsimp only
      split
      · rfl
      · rfl

theorem close_traffic (r : Registry) (id : GoString) :
    (r.close id).2.traffic = r.traffic ∧ (r.close id).2.perUser = r.perUser := by
  simp only [Registry.close]
  split <;> exact ⟨rfl, rfl⟩

theorem closeSession_traffic (r : Registry) (sessionID : GoString) (order : List GoString) :
    (r.closeSession sessionID order).traffic = r.traffic ∧ (r.closeSession sessionID order).perUser = r.perUser := by
  induction order generalizing r with
  | nil => exact ⟨rfl, rfl⟩
  | cons id order ih =>
    have hround : (r.closeIfOf sessionID id).traffic = r.traffic ∧
        (r.closeIfOf sessionID id).perUser = r.perUser := by
      simp only [closeIfOf]
      split
      · split
        · exact close_traffic r id
        · exact ⟨rfl, rfl⟩
      · exact ⟨rfl, rfl⟩
    obtain ⟨htraffic, hperUser⟩ := ih (r.closeIfOf sessionID id)
    exact ⟨htraffic.trans hround.1, hperUser.trans hround.2⟩

/-- No call loses anything of a user's traffic. -/
theorem balance_of_step (hstep : r.step e = some next) (user : GoString) :
    ((r.drains e).map (userDelta user)).sum + userDelta user next.perUser =
      userDelta user r.perUser + totalFor user (r.charge e) := by
  have hsilent : ∀ {next : Registry}, next.perUser = r.perUser →
      (([] : List (Map GoString TrafficMetrics)).map (userDelta user)).sum + userDelta user next.perUser =
        userDelta user r.perUser + totalFor user [] := by
    intro next hperUser
    rw [hperUser]
    exact add_comm _ _
  cases e with
  | «open» tunnel =>
    cases hstep
    exact hsilent rfl
  | close id =>
    cases hstep
    exact hsilent (close_traffic r id).2
  | closeSession sessionID order =>
    rw [Registry.step] at hstep
    split at hstep <;> cases hstep
    exact hsilent (closeSession_traffic r sessionID order).2
  | recordTraffic tunnelID requestBytes responseBytes =>
    cases hstep
    rw [recordTraffic_perUser]
    exact zero_add _
  | drainUserDeltas =>
    cases hstep
    exact congrArg (· + _) (add_zero _)

section

variable (h : r.Represents tunnels)

include h

/-- The owner whom `RecordTraffic` finds is the owner of the tunnel that is open. -/
theorem Represents.lookup_eq (tunnelID : GoString) :
    (r.byID.lookup tunnelID).bind r.bySubdomain.lookup = tunnels tunnelID := by
  cases hopen : tunnels tunnelID with
  | some t =>
    obtain ⟨hrouted, rfl⟩ := (h.lookups tunnelID t).mp hopen
    rw [(h.consistent.indexed _ _ hrouted).2]
    exact hrouted
  | none =>
    cases hlookup : r.byID.lookup tunnelID with
    | none => rfl
    | some subdomain =>
      obtain ⟨t, hrouted, hid⟩ := h.consistent.routed _ _ hlookup
      rw [← (h.consistent.indexed _ _ hrouted).1] at hrouted
      rw [(h.lookups tunnelID t).mpr ⟨hrouted, hid⟩] at hopen
      cases hopen

theorem Represents.mem_byID (tunnelID : GoString) : tunnelID ∈ r.byID ↔ ∃ t, tunnels tunnelID = some t := by
  rw [Map.mem_iff_lookup]
  constructor
  · rintro ⟨subdomain, hid⟩
    obtain ⟨t, hrouted, -⟩ := h.consistent.routed _ _ hid
    exact ⟨t, by rw [← h.lookup_eq, hid]; exact hrouted⟩
  · rintro ⟨t, hopen⟩
    obtain ⟨hrouted, rfl⟩ := (h.lookups tunnelID t).mp hopen
    exact ⟨t.subdomain, (h.consistent.indexed _ _ hrouted).2⟩

theorem Represents.recordTraffic_total :
    (r.recordTraffic tunnelID requestBytes responseBytes).traffic =
      r.traffic + total (tunnels.charge (.recordTraffic tunnelID requestBytes responseBytes)) := by
  rw [recordTraffic_traffic, OpenTunnels.charge]
  have hmem := h.mem_byID tunnelID
  cases hopen : tunnels tunnelID with
  | none =>
    rw [if_neg (by rw [hmem, hopen]; nofun)]
    exact (add_zero _).symm
  | some t =>
    rw [if_pos (hmem.mpr ⟨t, hopen⟩), total, List.map_singleton, List.sum_singleton]

theorem Represents.totalFor_charge (huser : user ≠ []) (e : RegistryEvent) :
    totalFor user (r.charge e) = totalFor user (tunnels.charge e) := by
  cases e with
  | recordTraffic tunnelID requestBytes responseBytes =>
    simp only [charge, OpenTunnels.charge, h.lookup_eq]
    cases tunnels tunnelID with
    | none => rfl
    | some tunnel =>
      dsimp only
      split
      · rename_i hnobody
        rw [totalFor_singleton, if_neg fun hsame => huser (hsame.symm.trans hnobody)]
        rfl
      · rfl
  | _ => rfl

/-- One call counts what it is charged for, in all and for each user, and nothing gets lost. -/
theorem Represents.conserves (hstep : r.step e = some next) :
    next.traffic = r.traffic + total (tunnels.charge e) ∧
    ∀ user, user ≠ [] → ((r.drains e).map (userDelta user)).sum + userDelta user next.perUser =
      userDelta user r.perUser + totalFor user (tunnels.charge e) := by
  refine ⟨?_, fun user huser => ?_⟩
  · cases e with
    | «open» tunnel =>
      cases hstep
      exact (add_zero _).symm
    | close id =>
      cases hstep
      exact (close_traffic r id).1.trans (add_zero _).symm
    | closeSession sessionID order =>
      rw [Registry.step] at hstep
      split at hstep <;> cases hstep
      exact (closeSession_traffic r sessionID order).1.trans (add_zero _).symm
    | recordTraffic tunnelID requestBytes responseBytes =>
      cases hstep
      exact h.recordTraffic_total
    | drainUserDeltas =>
      cases hstep
      exact (add_zero _).symm
  · rw [balance_of_step hstep, h.totalFor_charge huser]

end

end Registry

/-- What has been drained of a user's traffic, and what is still there. -/
def flow (user : GoString) (events : List RegistryEvent) (r : Registry) : TrafficMetrics :=
  ((drained events).map (userDelta user)).sum + userDelta user r.perUser

/-- After any calls, what was recorded is what was drained and what is still there. -/
theorem conserved_of_run (hpairs : OneToOne events) (hrun : run Registry.step newRegistry events = some r) :
    r.traffic = total (recorded events) ∧
      ∀ user, user ≠ [] → flow user events r = totalFor user (recorded events) := by
  revert hpairs
  apply run_induction (P := fun events r => OneToOne events → r.traffic = total (recorded events) ∧
    ∀ user, user ≠ [] → flow user events r = totalFor user (recorded events)) _ _ hrun
  · exact fun _ => ⟨rfl, fun _ _ => rfl⟩
  · intro events r e next hrun ih hstep hpairs
    obtain ⟨htraffic, hflow⟩ := ih hpairs.of_append
    obtain ⟨hrep, _⟩ := Registry.represents_of_run hpairs.of_append hrun
    obtain ⟨hall, husers⟩ := hrep.conserves hstep
    refine ⟨?_, fun user huser => ?_⟩
    · rw [recorded_concat, total_append, hall, htraffic]
    · have hdrained : drained (events ++ [e]) = drained events ++ r.drains e := outputs_concat hrun e
      rw [recorded_concat, totalFor_append, ← hflow user huser, flow, hdrained, List.map_append, List.sum_append,
        add_assoc, husers user huser, flow, add_assoc]

theorem owner_opened (hpairs : OneToOne events) (hrun : run Registry.step newRegistry events = some r) :
    ∀ charge ∈ recorded events, ∃ t, .open t ∈ events ∧ t.userID = charge.1 := by
  revert hpairs
  apply run_induction (P := fun events _ => OneToOne events →
    ∀ charge ∈ recorded events, ∃ t, .open t ∈ events ∧ t.userID = charge.1) _ _ hrun
  · rintro _ _ ⟨⟩
  · intro events r e next hrun ih _ hpairs charge hmem
    obtain ⟨hrep, hlast⟩ := Registry.represents_of_run hpairs.of_append hrun
    rw [recorded_concat, List.mem_append] at hmem
    obtain hmem | hmem := hmem
    · obtain ⟨t, hopened, howner⟩ := ih hpairs.of_append charge hmem
      exact ⟨t, List.mem_append_left _ hopened, howner⟩
    · cases e with
      | recordTraffic tunnelID requestBytes responseBytes =>
        simp only [OpenTunnels.charge] at hmem
        split at hmem
        · rename_i t hopen
          obtain ⟨hrouted, _⟩ := (hrep.lookups _ _).mp hopen
          rw [List.mem_singleton] at hmem
          subst hmem
          exact ⟨t, List.mem_append_left _ (open_mem_of_lastOpen (hlast _ _ hrouted)), rfl⟩
        · cases hmem
      | _ => cases hmem

/-- No traffic is lost, counted twice or charged to another user: for every user, what all drains returned and what is
    still there is what was recorded for the user's open tunnels; and if every tunnel has an owner, then over all users
    it is all traffic. -/
theorem traffic_conserved (hpairs : OneToOne events) (hrun : run Registry.step newRegistry events = some r) :
    (∀ user, user ≠ [] → ((drained events).map (userDelta user)).sum + userDelta user r.perUser =
      totalFor user (recorded events)) ∧
    ∀ users : Finset GoString, [] ∉ users → (∀ t, .open t ∈ events → t.userID ∈ users) →
      ∑ user ∈ users, (((drained events).map (userDelta user)).sum + userDelta user r.perUser) = r.trafficMetrics := by
  obtain ⟨htraffic, hflow⟩ := conserved_of_run hpairs hrun
  refine ⟨hflow, fun users hempty howners => ?_⟩
  rw [Registry.trafficMetrics, htraffic, ← sum_totalFor]
  · refine Finset.sum_congr rfl fun user hmem => hflow user ?_
    rintro rfl
    exact hempty hmem
  · intro charge hmem
    obtain ⟨t, hopened, howner⟩ := owner_opened hpairs hrun charge hmem
    rw [← howner]
    exact howners t hopened

def blogTunnel : ActiveTunnel :=
  { id := lit "t-1", subdomain := lit "blog", agentID := lit "a-1", userID := lit "anna", sessionID := lit "s-1"
    localAddress := lit "127.0.0.1:3000" }

def shopTunnel : ActiveTunnel :=
  { id := lit "t-2", subdomain := lit "shop", agentID := lit "a-2", userID := lit "ben", sessionID := lit "s-2"
    localAddress := lit "127.0.0.1:8080" }

/-- Two tunnels with traffic on both sides of a flush, and a request that comes too late. -/
def twoOwners : List RegistryEvent :=
  [.open blogTunnel, .open shopTunnel, .recordTraffic (lit "t-1") 100 2000, .drainUserDeltas,
    .recordTraffic (lit "t-1") (-1) 500, .recordTraffic (lit "t-2") 7 0, .close (lit "t-1"),
    .recordTraffic (lit "t-1") 9 9]

theorem opened_twoOwners {t : ActiveTunnel} (hmem : .open t ∈ twoOwners) : t = blogTunnel ∨ t = shopTunnel := by
  simpa [twoOwners] using hmem

theorem oneToOne_twoOwners : OneToOne twoOwners := by
  intro t t' hmem hmem'
  obtain rfl | rfl := opened_twoOwners hmem <;> obtain rfl | rfl := opened_twoOwners hmem' <;> decide

theorem traffic_conserved_twoOwners :
    ((drained twoOwners).map (userDelta (lit "anna"))).sum = .ofRequest 100 2000 ∧
    ∃ r, run Registry.step newRegistry twoOwners = some r ∧
      ((drained twoOwners).map (userDelta (lit "anna"))).sum + userDelta (lit "anna") r.perUser =
        totalFor (lit "anna") (recorded twoOwners) ∧
      ∑ user ∈ {lit "anna", lit "ben"}, (((drained twoOwners).map (userDelta user)).sum + userDelta user r.perUser) =
        r.trafficMetrics := by
  refine ⟨by decide +kernel, ?_⟩
  obtain ⟨r, hrun⟩ := Option.isSome_iff_exists.mp
    (show (run Registry.step newRegistry twoOwners).isSome = true by decide +kernel)
  obtain ⟨heach, hall⟩ := traffic_conserved oneToOne_twoOwners hrun
  refine ⟨r, hrun, heach _ (by decide), hall _ (by decide) fun t hmem => ?_⟩
  obtain rfl | rfl := opened_twoOwners hmem <;> decide

end myngrok.tunnels
