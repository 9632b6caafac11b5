import Myngrok.Transition.Run
import Myngrok.Tunnels.Routes

open golang transition

namespace myngrok.tunnels

/-- The calls that change a registry, `CloseSession` with the order of its `range`. -/
inductive RegistryEvent where
  | «open» (tunnel : ActiveTunnel)
  | close (id : GoString)
  | closeSession (sessionID : GoString) (order : List GoString)
  | recordTraffic (tunnelID : GoString) (requestBytes responseBytes : Int)
  | drainUserDeltas
  deriving DecidableEq

namespace Registry

def count (r : Registry) : Nat := r.byID.len

def trafficMetrics (r : Registry) : TrafficMetrics := r.traffic

def step (r : Registry) : RegistryEvent → Option Registry
  | .open tunnel => some (r.open tunnel)
  | .close id => some (r.close id).2
  | .closeSession sessionID order =>
    if order.Perm r.byID.keys then some (r.closeSession sessionID order) else none
  | .recordTraffic tunnelID requestBytes responseBytes => some (r.recordTraffic tunnelID requestBytes responseBytes)
  | .drainUserDeltas => some r.drainUserDeltas.2

end Registry

/-- What a registry is for: the tunnels that are open, by their IDs. -/
abbrev OpenTunnels := GoString → Option ActiveTunnel

def OpenTunnels.next (tunnels : OpenTunnels) : RegistryEvent → OpenTunnels
  | .open tunnel => fun id => if id = tunnel.id then some tunnel else tunnels id
  | .close closed => fun id => if id = closed then none else tunnels id
  | .closeSession sessionID _ => fun id => (tunnels id).filter fun tunnel => tunnel.sessionID ≠ sessionID
  | .recordTraffic .. => tunnels
  | .drainUserDeltas => tunnels

/-- The tunnels that are open after some calls. -/
def openTunnels (events : List RegistryEvent) : OpenTunnels := events.foldl OpenTunnels.next fun _ => none

/-- The tunnel that a call opens at a subdomain. -/
def RegistryEvent.opens (subdomain : GoString) : RegistryEvent → Option ActiveTunnel
  | .open tunnel => if tunnel.subdomain = subdomain then some tunnel else none
  | _ => none

/-- What the most recent `Open` of a subdomain carried. -/
def lastOpen (events : List RegistryEvent) (subdomain : GoString) : Option ActiveTunnel :=
  events.reverse.findSome? (RegistryEvent.opens subdomain)

/-- The IDs and the subdomains that are opened belong to each other. -/
def OneToOne (events : List RegistryEvent) : Prop :=
  ∀ t t', .open t ∈ events → .open t' ∈ events → (t.id = t'.id ↔ t.subdomain = t'.subdomain)

variable {r next : Registry} {events : List RegistryEvent} {e : RegistryEvent} {t : ActiveTunnel}
  {tunnels : OpenTunnels} {subdomain : GoString}

theorem OneToOne.of_append {later : List RegistryEvent} (h : OneToOne (events ++ later)) : OneToOne events :=
  fun t t' hmem hmem' => h t t' (List.mem_append_left _ hmem) (List.mem_append_left _ hmem')

theorem openTunnels_concat (events : List RegistryEvent) (e : RegistryEvent) :
    openTunnels (events ++ [e]) = (openTunnels events).next e := by
  rw [openTunnels, List.foldl_append, ← openTunnels]
  rfl

theorem lastOpen_concat (events : List RegistryEvent) (e : RegistryEvent) (subdomain : GoString) :
    lastOpen (events ++ [e]) subdomain = (e.opens subdomain).or (lastOpen events subdomain) := by
  rw [lastOpen, List.reverse_append, List.reverse_singleton, List.singleton_append, List.findSome?_cons, ← lastOpen]
  cases e.opens subdomain <;> rfl

theorem open_mem_of_lastOpen (h : lastOpen events subdomain = some t) : .open t ∈ events := by
  obtain ⟨e, hmem, hopens⟩ := List.exists_of_findSome?_eq_some h
  cases e with
  | «open» tunnel =>
    rw [RegistryEvent.opens] at hopens
    split at hopens <;> cases hopens
    exact List.mem_reverse.mp hmem
  | _ => cases hopens

namespace Registry

/-- Both maps hold exactly the tunnels that are open. -/
structure Represents (r : Registry) (tunnels : OpenTunnels) : Prop where
  consistent : r.Consistent
  lookups : ∀ id t, tunnels id = some t ↔ r.bySubdomain.lookup t.subdomain = some t ∧ t.id = id

theorem recordTraffic_routes (r : Registry) (tunnelID : GoString) (requestBytes responseBytes : Int) :
    (r.recordTraffic tunnelID requestBytes responseBytes).bySubdomain = r.bySubdomain ∧
      (r.recordTraffic tunnelID requestBytes responseBytes).byID = r.byID := by
  simp only [recordTraffic]
  split
  · exact ⟨rfl, rfl⟩
  · split
    · exact ⟨rfl, rfl⟩
    · split <;> exact ⟨rfl, rfl⟩

/-- What is routed after a call was routed before, or is what the call opened. -/
theorem lookup_of_step (h : r.Consistent) (hstep : r.step e = some next)
    (hlookup : next.bySubdomain.lookup subdomain = some t) :
    e.opens subdomain = some t ∨ e.opens subdomain = none ∧ r.bySubdomain.lookup subdomain = some t := by
  cases e with
  | «open» tunnel =>
    cases hstep
    rw [lookup_open] at hlookup
    simp only [RegistryEvent.opens, eq_comm (a := tunnel.subdomain)]
    split at hlookup
    · rename_i hsame
      exact .inl ((if_pos hsame).trans hlookup)
    · rename_i hother
      exact .inr ⟨if_neg hother, hlookup⟩
  | close id =>
    cases hstep
    exact .inr ⟨rfl, ((h.close id).2 _ _ |>.mp hlookup).1⟩
  | closeSession sessionID order =>
    rw [step] at hstep
    split at hstep <;> cases hstep
    rename_i horder
    exact .inr ⟨rfl, ((h.closeSession horder sessionID).2 _ _ |>.mp hlookup).1⟩
  | recordTraffic tunnelID requestBytes responseBytes =>
    cases hstep
    rw [(recordTraffic_routes _ _ _ _).1] at hlookup
    exact .inr ⟨rfl, hlookup⟩
  | drainUserDeltas =>
    cases hstep
    exact .inr ⟨rfl, hlookup⟩

/-- A tunnel is opened whose ID and subdomain are those of no other tunnel. -/
theorem Represents.open (h : r.Represents tunnels) (hpair : ∀ subdomain other,
    r.bySubdomain.lookup subdomain = some other → (other.id = t.id ↔ subdomain = t.subdomain)) :
    (r.open t).Represents (tunnels.next (.open t)) := by
  refine ⟨h.consistent.open hpair, fun id other => ?_⟩
  simp only [OpenTunnels.next, lookup_open]
  split <;> split <;> rename_i hid hsubdomain
  · exact ⟨fun heq => ⟨heq, by cases heq; exact hid.symm⟩, And.left⟩
  · constructor
    · rintro ⟨⟩
      exact absurd rfl hsubdomain
    · rintro ⟨hlookup, hsame⟩
      exact absurd ((hpair _ other hlookup).mp (hsame.trans hid)) hsubdomain
  · constructor
    · intro hopen
      obtain ⟨hlookup, hsame⟩ := (h.lookups id other).mp hopen
      exact absurd (hsame.symm.trans ((hpair _ other hlookup).mpr hsubdomain)) hid
    · rintro ⟨⟨⟩, hsame⟩
      exact absurd hsame.symm hid
  · exact h.lookups id other

/-- Every call does to the maps what it does to the tunnels that are open. -/
theorem Represents.step (h : r.Represents tunnels) (hstep : r.step e = some next)
    (hpair : ∀ t, e = .open t → ∀ subdomain other, r.bySubdomain.lookup subdomain = some other →
      (other.id = t.id ↔ subdomain = t.subdomain)) : next.Represents (tunnels.next e) := by
  cases e with
  | «open» tunnel =>
    cases hstep
    exact h.open (hpair tunnel rfl)
  | close closed =>
    cases hstep
    obtain ⟨hconsistent, hlookups⟩ := h.consistent.close closed
    refine ⟨hconsistent, fun id t => ?_⟩
    rw [hlookups, and_right_comm, ← h.lookups]
    simp only [OpenTunnels.next]
    split
    · rename_i hclosed
      refine ⟨by rintro ⟨⟩, fun hopen => ?_⟩
      exact absurd (((h.lookups id t).mp hopen.1).2.trans hclosed) hopen.2
    · rename_i hother
      refine ⟨fun hopen => ⟨hopen, ?_⟩, And.left⟩
      rw [((h.lookups id t).mp hopen).2]
      exact hother
  | closeSession sessionID order =>
    rw [Registry.step] at hstep
    split at hstep <;> cases hstep
    rename_i horder
    obtain ⟨hconsistent, hlookups⟩ := h.consistent.closeSession horder sessionID
    refine ⟨hconsistent, fun id t => ?_⟩
    rw [hlookups, and_right_comm, ← h.lookups, OpenTunnels.next, Option.filter_eq_some_iff]
    simp
  | recordTraffic tunnelID requestBytes responseBytes =>
    cases hstep
    obtain ⟨hsubdomains, hids⟩ := recordTraffic_routes r tunnelID requestBytes responseBytes
    refine ⟨⟨?_, ?_⟩, ?_⟩
    · rw [hsubdomains, hids]
      exact h.consistent.indexed
    · rw [hsubdomains, hids]
      exact h.consistent.routed
    · rw [hsubdomains]
      exact h.lookups
  | drainUserDeltas =>
    cases hstep
    exact ⟨⟨h.consistent.indexed, h.consistent.routed⟩, h.lookups⟩

theorem represents_new : newRegistry.Represents (openTunnels []) := by
  refine ⟨consistent_new, fun id t => ?_⟩
  constructor
  · rintro ⟨⟩
  · rintro ⟨⟨⟩, _⟩

/-- After any calls, the registry holds the tunnels that are open, each as its most recent `Open` carried it. -/
theorem represents_of_run (hpairs : OneToOne events) (hrun : run step newRegistry events = some r) :
    r.Represents (openTunnels events) ∧
      ∀ subdomain t, r.bySubdomain.lookup subdomain = some t → lastOpen events subdomain = some t := by
  revert hpairs
  apply run_induction (P := fun events r => OneToOne events → r.Represents (openTunnels events) ∧
    ∀ subdomain t, r.bySubdomain.lookup subdomain = some t → lastOpen events subdomain = some t) _ _ hrun
  · intro _
    exact ⟨represents_new, by rintro _ _ ⟨⟩⟩
  · intro events r e next _ ih hstep hpairs
    obtain ⟨hrep, hlast⟩ := ih hpairs.of_append
    refine ⟨?_, fun subdomain t hlookup => ?_⟩
    · rw [openTunnels_concat]
      refine hrep.step hstep ?_
      rintro t rfl subdomain other hlookup
      have hopened := List.mem_append_left [.open t] (open_mem_of_lastOpen (hlast _ _ hlookup))
      rw [hpairs other t hopened (List.mem_append_right _ List.mem_cons_self),
        (hrep.consistent.indexed _ _ hlookup).1]
    · rw [lastOpen_concat]
      obtain hopens | ⟨hopens, hold⟩ := lookup_of_step hrep.consistent hstep hlookup
      · rw [hopens, Option.some_or]
      · rw [hopens, Option.none_or, hlast _ _ hold]

/-- There are as many IDs as subdomains. -/
theorem Consistent.count_eq (h : r.Consistent) : r.count = r.bySubdomain.len := by
  -- The IDs of the tunnels at the subdomains are, in some order, the keys of `byID`.
  have hinjective : ∀ a ∈ r.bySubdomain.entries, ∀ b ∈ r.bySubdomain.entries, a.2.id = b.2.id → a = b := by
    rintro ⟨subdomain, t⟩ hmem ⟨subdomain', t'⟩ hmem' hid
    have hlookup := AList.mem_lookup_iff.mpr hmem
    have hlookup' := AList.mem_lookup_iff.mpr hmem'
    have hsubdomain := (h.id_eq_iff (h.indexed _ _ hlookup').2 hlookup).mp hid
    subst hsubdomain
    rw [Option.mem_def.mp hlookup'] at hlookup
    cases hlookup
    rfl
  have hnodup : (r.bySubdomain.entries.map fun entry => entry.2.id).Nodup :=
    (List.NodupKeys.nodup r.bySubdomain.nodupKeys).map_on hinjective
  have hperm : r.byID.keys.Perm (r.bySubdomain.entries.map fun entry => entry.2.id) := by
    rw [List.perm_ext_iff_of_nodup r.byID.keys_nodup hnodup]
    intro id
    rw [← AList.mem_keys, h.mem_byID, List.mem_map]
    constructor
    · rintro ⟨subdomain, t, hlookup, rfl⟩
      exact ⟨⟨subdomain, t⟩, AList.mem_lookup_iff.mp hlookup, rfl⟩
    · rintro ⟨⟨subdomain, t⟩, hmem, rfl⟩
      exact ⟨subdomain, t, AList.mem_lookup_iff.mpr hmem, rfl⟩
  rw [count, Map.len, hperm.length_eq, List.length_map, Map.len, AList.keys, List.keys, List.length_map]

end Registry

end myngrok.tunnels
