import Mathlib.Data.List.Perm.Basic
import Myngrok.Tunnels.Registry

open golang

namespace myngrok.tunnels.Registry

/-- Both maps of the registry hold the same tunnels. -/
structure Consistent (r : Registry) : Prop where
  indexed : ∀ subdomain t, r.bySubdomain.lookup subdomain = some t →
    t.subdomain = subdomain ∧ r.byID.lookup t.id = some subdomain
  routed : ∀ id subdomain, r.byID.lookup id = some subdomain →
    ∃ t, r.bySubdomain.lookup subdomain = some t ∧ t.id = id

variable {r : Registry} {t : ActiveTunnel} {id sessionID subdomain : GoString} {order : List GoString}

theorem consistent_new : newRegistry.Consistent := by
  refine ⟨?_, ?_⟩
  · intro subdomain t hlookup
    cases hlookup
  · intro id subdomain hlookup
    cases hlookup

theorem Consistent.mem_byID (h : r.Consistent) :
    id ∈ r.byID ↔ ∃ subdomain t, r.bySubdomain.lookup subdomain = some t ∧ t.id = id := by
  rw [Map.mem_iff_lookup]
  constructor
  · rintro ⟨subdomain, hlookup⟩
    obtain ⟨t, ht, hid⟩ := h.routed id subdomain hlookup
    exact ⟨subdomain, t, ht, hid⟩
  · rintro ⟨subdomain, t, ht, rfl⟩
    exact ⟨subdomain, (h.indexed subdomain t ht).2⟩

theorem lookup_open (r : Registry) (t : ActiveTunnel) (subdomain : GoString) :
    (r.open t).bySubdomain.lookup subdomain =
      if subdomain = t.subdomain then some t else r.bySubdomain.lookup subdomain :=
  Map.lookup_insert_eq _ _ _ _

/-- `Open` keeps the maps together as long as IDs and subdomains belong to each other. -/
theorem Consistent.open (h : r.Consistent) (hpair : ∀ subdomain other,
    r.bySubdomain.lookup subdomain = some other → (other.id = t.id ↔ subdomain = t.subdomain)) :
    (r.open t).Consistent := by
  have hids : ∀ id, (r.open t).byID.lookup id = if id = t.id then some t.subdomain else r.byID.lookup id :=
    fun id => Map.lookup_insert_eq _ _ _ _
  refine ⟨?_, ?_⟩
  · intro subdomain other hlookup
    rw [lookup_open] at hlookup
    rw [hids]
    split at hlookup
    · rename_i hsame
      cases hlookup
      exact ⟨hsame.symm, by rw [if_pos rfl, hsame]⟩
    · rename_i hother
      obtain ⟨hsubdomain, hindexed⟩ := h.indexed subdomain other hlookup
      refine ⟨hsubdomain, ?_⟩
      rw [if_neg fun hid => hother ((hpair subdomain other hlookup).mp hid), hindexed]
  · intro id subdomain hlookup
    rw [hids] at hlookup
    rw [lookup_open]
    split at hlookup
    · rename_i hsame
      cases hlookup
      exact ⟨t, if_pos rfl, hsame.symm⟩
    · rename_i hother
      obtain ⟨other, hrouted, hid⟩ := h.routed id subdomain hlookup
      refine ⟨other, ?_, hid⟩
      rw [if_neg fun hsame => hother (hid ▸ (hpair subdomain other hrouted).mpr hsame), hrouted]

/-- A tunnel with an ID is the one that the ID leads to. -/
theorem Consistent.id_eq_iff (h : r.Consistent) {found : GoString} (hid : r.byID.lookup id = some found)
    (hlookup : r.bySubdomain.lookup subdomain = some t) : t.id = id ↔ subdomain = found := by
  constructor
  · rintro rfl
    rw [(h.indexed subdomain t hlookup).2] at hid
    exact Option.some.inj hid
  · rintro rfl
    obtain ⟨own, hown, hownID⟩ := h.routed id subdomain hid
    rw [hown] at hlookup
    cases hlookup
    exact hownID

/-- `Close` takes out the tunnel with the ID. -/
theorem Consistent.close (h : r.Consistent) (id : GoString) :
    (r.close id).2.Consistent ∧ ∀ subdomain t, (r.close id).2.bySubdomain.lookup subdomain = some t ↔
      r.bySubdomain.lookup subdomain = some t ∧ t.id ≠ id := by
  cases hid : r.byID.lookup id with
  | none =>
    have hsame : (r.close id).2 = r := by simp only [Registry.close, hid]
    rw [hsame]
    refine ⟨h, fun subdomain t => ⟨fun hlookup => ⟨hlookup, ?_⟩, And.left⟩⟩
    rintro rfl
    rw [(h.indexed subdomain t hlookup).2] at hid
    cases hid
  | some found =>
    have hclosed : (r.close id).2 =
        { r with byID := r.byID.erase id, bySubdomain := r.bySubdomain.erase found } := by
      simp only [Registry.close, hid]
    have hlookups : ∀ subdomain t, (r.bySubdomain.erase found).lookup subdomain = some t ↔
        r.bySubdomain.lookup subdomain = some t ∧ t.id ≠ id := by
      intro subdomain t
      rw [Map.lookup_erase_eq]
      split
      · rename_i hfound
        refine ⟨fun hnone => (by cases hnone), ?_⟩
        rintro ⟨hrouted, hother⟩
        exact absurd ((h.id_eq_iff hid hrouted).mpr hfound) hother
      · rename_i hfound
        exact ⟨fun hrouted => ⟨hrouted, fun hsame => hfound ((h.id_eq_iff hid hrouted).mp hsame)⟩, And.left⟩
    rw [hclosed]
    refine ⟨⟨?_, ?_⟩, hlookups⟩
    · intro subdomain t hlookup
      obtain ⟨hrouted, hother⟩ := (hlookups subdomain t).mp hlookup
      obtain ⟨hsubdomain, hindexed⟩ := h.indexed subdomain t hrouted
      refine ⟨hsubdomain, ?_⟩
      rw [Map.lookup_erase_eq, if_neg hother, hindexed]
    · intro other subdomain hindexed
      rw [Map.lookup_erase_eq] at hindexed
      split at hindexed
      · cases hindexed
      · rename_i hother
        obtain ⟨t, hrouted, rfl⟩ := h.routed other subdomain hindexed
        exact ⟨t, (hlookups subdomain t).mpr ⟨hrouted, hother⟩, rfl⟩

/-- One round of the loop of `CloseSession` takes out the tunnel it is at, if it is the session's. -/
theorem Consistent.closeIfOf (h : r.Consistent) (sessionID id : GoString) :
    (r.closeIfOf sessionID id).Consistent ∧ ∀ subdomain t,
      (r.closeIfOf sessionID id).bySubdomain.lookup subdomain = some t ↔
        r.bySubdomain.lookup subdomain = some t ∧ ¬ (t.id = id ∧ t.sessionID = sessionID) := by
  obtain ⟨hclosed, hlookups⟩ := h.close id
  by_cases hown : ∃ found own, r.byID.lookup id = some found ∧ r.bySubdomain.lookup found = some own ∧
      own.sessionID = sessionID
  · obtain ⟨found, own, hid, hfound, hsession⟩ := hown
    have hround : r.closeIfOf sessionID id = (r.close id).2 := by
      simp only [Registry.closeIfOf, hid, sessionAt, hfound, if_pos hsession]
    rw [hround]
    refine ⟨hclosed, fun subdomain t => (hlookups subdomain t).trans (and_congr_right fun hrouted => ?_)⟩
    -- The one tunnel with the ID is the session's.
    refine not_congr ⟨fun hsame => ⟨hsame, ?_⟩, And.left⟩
    rw [(h.id_eq_iff hid hrouted).mp hsame, hfound] at hrouted
    cases hrouted
    exact hsession
  · have hround : r.closeIfOf sessionID id = r := by
      simp only [Registry.closeIfOf]
      split
      · rename_i found hid
        obtain ⟨own, hfound, _⟩ := h.routed id found hid
        simp only [sessionAt, hfound]
        rw [if_neg fun hsession => hown ⟨found, own, hid, hfound, hsession⟩]
      · rfl
    rw [hround]
    refine ⟨h, fun subdomain t => ⟨fun hlookup => ⟨hlookup, ?_⟩, And.left⟩⟩
    rintro ⟨rfl, hsession⟩
    exact hown ⟨subdomain, t, (h.indexed subdomain t hlookup).2, hlookup, hsession⟩

/-- `CloseSession` takes out the tunnels of the session and no others, in whatever order it goes through them. -/
theorem Consistent.closeSession (h : r.Consistent) (horder : order.Perm r.byID.keys) (sessionID : GoString) :
    (r.closeSession sessionID order).Consistent ∧ ∀ subdomain t,
      (r.closeSession sessionID order).bySubdomain.lookup subdomain = some t ↔
        r.bySubdomain.lookup subdomain = some t ∧ t.sessionID ≠ sessionID := by
  have hloop : ∀ (order : List GoString) (r : Registry), r.Consistent →
      (r.closeSession sessionID order).Consistent ∧ ∀ subdomain t,
        (r.closeSession sessionID order).bySubdomain.lookup subdomain = some t ↔
          r.bySubdomain.lookup subdomain = some t ∧ ¬ (t.id ∈ order ∧ t.sessionID = sessionID) := by
    intro order
    induction order with
    | nil => exact fun r h => ⟨h, fun subdomain t => by simp [Registry.closeSession]⟩
    | cons id order ih =>
      intro r h
      obtain ⟨hround, hlookup⟩ := h.closeIfOf sessionID id
      obtain ⟨hrest, hlookups⟩ := ih _ hround
      refine ⟨hrest, fun subdomain t => ?_⟩
      rw [Registry.closeSession, List.foldl_cons, ← Registry.closeSession, hlookups, hlookup, List.mem_cons]
      constructor
      · rintro ⟨⟨hrouted, hfirst⟩, hlater⟩
        exact ⟨hrouted, fun hmem => hmem.1.elim (fun hid => hfirst ⟨hid, hmem.2⟩) fun hid => hlater ⟨hid, hmem.2⟩⟩
      · rintro ⟨hrouted, hkept⟩
        exact ⟨⟨hrouted, fun hsame => hkept ⟨.inl hsame.1, hsame.2⟩⟩, fun hsame => hkept ⟨.inr hsame.1, hsame.2⟩⟩
  obtain ⟨hconsistent, hlookup⟩ := hloop order r h
  refine ⟨hconsistent, fun subdomain t => ?_⟩
  rw [hlookup]
  constructor
  · rintro ⟨hrouted, hkept⟩
    refine ⟨hrouted, fun hsession => hkept ⟨?_, hsession⟩⟩
    rw [horder.mem_iff]
    exact AList.mem_keys.mp (h.mem_byID.mpr ⟨subdomain, t, hrouted, rfl⟩)
  · rintro ⟨hrouted, hsession⟩
    exact ⟨hrouted, fun hsame => hsession hsame.2⟩

end myngrok.tunnels.Registry
