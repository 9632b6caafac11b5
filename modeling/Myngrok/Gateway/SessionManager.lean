import Myngrok.Protocol.Messages
import Mathlib.Data.List.Perm.Basic

open golang myngrok.protocol

namespace myngrok.gateway

/-- A channel value. `make` yields one that was never used before. -/
abbrev Chan := Nat

structure Response where
  statusCode : Int
  headers : Headers
  body : Bytes
  error : GoString
  deriving DecidableEq

/-- What `Remove` sends to every request of a session that went away. -/
def disconnected : Response :=
  { statusCode := 0, headers := ∅, body := [], error := lit "tunnel agent disconnected" }

/-- One connected agent. `lastSeen` is `none` for Go's zero time and `outbound` is `none` for a nil channel; the cancel
    function is left out. -/
structure Session where
  id : GoString
  agentID : GoString
  agentTokenHash : GoString
  lastSeen : Option Nat
  outbound : Option Chan
  deriving DecidableEq

structure PendingRequest where
  sessionID : GoString
  response : Chan
  deriving DecidableEq

structure SessionManager where
  sessions : Map GoString Session
  pending : Map GoString PendingRequest
  connectionsTotal : UInt64
  disconnectionsTotal : UInt64

def newSessionManager : SessionManager :=
  { sessions := ∅, pending := ∅, connectionsTotal := 0, disconnectionsTotal := 0 }

namespace SessionManager

/-- `RegisterRequest`, with the channel that `make` returned. An entry that was already there for the same ID is
    silently replaced. -/
def registerRequest (m : SessionManager) (sessionID id : GoString) (ch : Chan) : SessionManager :=
  { m with pending := m.pending.insert id { sessionID, response := ch } }

def cancelRequest (m : SessionManager) (id : GoString) : SessionManager :=
  { m with pending := m.pending.erase id }

/-- The locked part of `DeliverResponse`: the entry is taken out of the table; the send on its channel happens after the
    lock is released. -/
def deliverLocked (m : SessionManager) (id : GoString) : Option PendingRequest × SessionManager :=
  match m.pending.lookup id with
  | some pending => (some pending, { m with pending := m.pending.erase id })
  | none => (none, m)

def register (m : SessionManager) (session : Session) (now : Nat) : SessionManager :=
  let session := if session.lastSeen.isNone then { session with lastSeen := some now } else session
  { m with sessions := m.sessions.insert session.id session, connectionsTotal := m.connectionsTotal + 1 }

def touch (m : SessionManager) (id : GoString) (now : Nat) : SessionManager :=
  match m.sessions.lookup id with
  | some session => { m with sessions := m.sessions.insert id { session with lastSeen := some now } }
  | none => m

/-- The loop of `Remove` over the pending table, in the order `range` visits it. -/
def rangePending (id : GoString) :
    List GoString → Map GoString PendingRequest → List Chan → Map GoString PendingRequest × List Chan
  | [], pending, cancelled => (pending, cancelled)
  | requestID :: rest, pending, cancelled =>
    match pending.lookup requestID with
    | some entry =>
      if entry.sessionID = id then
        rangePending id rest (pending.erase requestID) (cancelled ++ [entry.response])
      else rangePending id rest pending cancelled
    | none => rangePending id rest pending cancelled

/-- The locked part of `Remove`. It returns the channels to be told. -/
def removeLocked (m : SessionManager) (id : GoString) (order : List GoString) : SessionManager × List Chan :=
  let m := if id ∈ m.sessions then
    { m with sessions := m.sessions.erase id, disconnectionsTotal := m.disconnectionsTotal + 1 } else m
  let (pending, cancelled) := rangePending id order m.pending []
  ({ m with pending }, cancelled)

def agentID (m : SessionManager) (id : GoString) : Option GoString :=
  (m.sessions.lookup id).map Session.agentID

/-- The lookup all four `Send` functions begin with: the outbound channel of a session that is registered and has
    one. -/
def outbound (m : SessionManager) (id : GoString) : Option Chan :=
  (m.sessions.lookup id).bind Session.outbound

/-- `Register` only fills in the time. -/
theorem register_sessions (m : SessionManager) (session : Session) (now : Nat) :
    ∃ stored : Session, (m.register session now).sessions = m.sessions.insert session.id stored ∧
      stored.outbound = session.outbound := by
  unfold register
  split <;> exact ⟨_, rfl, rfl⟩

theorem agentID_register (m : SessionManager) (session : Session) (now : Nat) (id : GoString) :
    (m.register session now).agentID id = if id = session.id then some session.agentID else m.agentID id := by
  have hregister : ∃ stored : Session, (m.register session now).sessions = m.sessions.insert session.id stored ∧
      stored.agentID = session.agentID := by
    unfold register
    split <;> exact ⟨_, rfl, rfl⟩
  obtain ⟨stored, hsessions, hagent⟩ := hregister
  rw [agentID, hsessions, Map.lookup_insert_eq, agentID]
  split
  · rw [Option.map_some, hagent]
  · rfl

theorem agentID_removeLocked (m : SessionManager) (sessionID : GoString) (order : List GoString) (id : GoString) :
    (m.removeLocked sessionID order).1.agentID id = if id = sessionID then none else m.agentID id := by
  simp only [removeLocked, agentID]
  split
  · rename_i hmem
    rw [Map.lookup_erase_eq]
    split <;> rfl
  · rename_i hmem
    split
    · rename_i hsame
      subst hsame
      rw [AList.lookup_eq_none.mpr hmem]
      rfl
    · rfl

/-- What the loop of `Remove` leaves in the table, and which channels it collects. -/
theorem rangePending_spec (id : GoString) (order : List GoString)
    (pending : Map GoString PendingRequest) (cancelled : List Chan) (hnodup : order.Nodup) :
    (∀ key, (rangePending id order pending cancelled).1.lookup key =
      if key ∈ order ∧ ∃ entry, pending.lookup key = some entry ∧ entry.sessionID = id then none
      else pending.lookup key) ∧
    (rangePending id order pending cancelled).2 = cancelled ++ order.filterMap fun key =>
      (pending.lookup key).bind fun entry => if entry.sessionID = id then some entry.response else none := by
  induction order generalizing pending cancelled with
  | nil => simp [rangePending]
  | cons requestID rest ih =>
    obtain ⟨hfresh, hrest⟩ := List.nodup_cons.mp hnodup
    cases hlookup : pending.lookup requestID with
    | none =>
      obtain ⟨hkeys, hlist⟩ := ih pending cancelled hrest
      simp only [rangePending, hlookup, hlist]
      refine ⟨fun key => ?_, by simp [hlookup]⟩
      rw [hkeys key]
      by_cases hkey : key = requestID
      · subst hkey
        simp [hlookup]
      · simp [hkey]
    | some entry =>
      by_cases hsession : entry.sessionID = id
      · obtain ⟨hkeys, hlist⟩ := ih (pending.erase requestID) (cancelled ++ [entry.response]) hrest
        simp only [rangePending, hlookup, if_pos hsession]
        constructor
        · intro key
          rw [hkeys key, Map.lookup_erase_eq]
          by_cases hkey : key = requestID
          · subst hkey
            simp [hlookup, hsession]
          · simp [hkey]
        · rw [hlist]
          have hsame : (rest.filterMap fun key => (AList.lookup key (AList.erase requestID pending)).bind
              fun entry => if entry.sessionID = id then some entry.response else none) =
              rest.filterMap fun key => (AList.lookup key pending).bind
              fun entry => if entry.sessionID = id then some entry.response else none := by
            apply List.filterMap_congr
            intro key hmem
            have hne : key ≠ requestID := fun heq => hfresh (heq ▸ hmem)
            rw [AList.lookup_erase_ne hne]
          rw [hsame]
          simp [hlookup, hsession]
      · obtain ⟨hkeys, hlist⟩ := ih pending cancelled hrest
        simp only [rangePending, hlookup, if_neg hsession, hlist]
        refine ⟨fun key => ?_, by simp [hlookup, hsession]⟩
        rw [hkeys key]
        by_cases hkey : key = requestID
        · subst hkey
          simp [hlookup, hsession]
        · simp [hkey]

variable {order : List GoString}

section

variable (m : SessionManager) (sessionID : GoString) (horder : order.Perm m.pending.keys)

include m sessionID horder

/-- The pending table before and after a `Remove`: exactly the entries of that session go, and exactly their channels
    are collected. -/
theorem removeLocked_pending (id : GoString) (entry : PendingRequest) :
    (m.removeLocked sessionID order).1.pending.lookup id = some entry ↔
      m.pending.lookup id = some entry ∧ entry.sessionID ≠ sessionID := by
  have hnodup : order.Nodup := horder.nodup_iff.mpr m.pending.keys_nodup
  have hpending : (m.removeLocked sessionID order).1.pending =
      (rangePending sessionID order m.pending []).1 := by
    unfold removeLocked
    split <;> rfl
  rw [hpending, (rangePending_spec sessionID order m.pending [] hnodup).1 id]
  split
  · rename_i htaken
    obtain ⟨_, found, hfound, hsession⟩ := htaken
    constructor
    · intro h
      cases h
    · rintro ⟨hlookup, hne⟩
      rw [hfound] at hlookup
      cases hlookup
      exact absurd hsession hne
  · rename_i hkept
    constructor
    · intro hlookup
      refine ⟨hlookup, fun hsession => hkept ⟨?_, entry, hlookup, hsession⟩⟩
      rw [horder.mem_iff, ← AList.mem_keys, Map.mem_iff_lookup]
      exact ⟨entry, hlookup⟩
    · intro h
      exact h.1

theorem removeLocked_cancelled :
    (m.removeLocked sessionID order).2 = order.filterMap fun key =>
      (m.pending.lookup key).bind fun entry =>
        if entry.sessionID = sessionID then some entry.response else none := by
  have hnodup : order.Nodup := horder.nodup_iff.mpr m.pending.keys_nodup
  have hcancelled : (m.removeLocked sessionID order).2 =
      (rangePending sessionID order m.pending []).2 := by
    unfold removeLocked
    split <;> rfl
  rw [hcancelled, (rangePending_spec sessionID order m.pending [] hnodup).2]
  rfl

theorem mem_removeLocked_cancelled (ch : Chan) :
    ch ∈ (m.removeLocked sessionID order).2 ↔
      ∃ id, m.pending.lookup id = some { sessionID, response := ch } := by
  rw [removeLocked_cancelled m sessionID horder, List.mem_filterMap]
  constructor
  · rintro ⟨id, _, hentry⟩
    obtain ⟨entry, hlookup, hsome⟩ := Option.bind_eq_some_iff.mp hentry
    split at hsome
    · rename_i hsession
      cases hsome
      cases entry
      cases hsession
      exact ⟨id, hlookup⟩
    · cases hsome
  · rintro ⟨id, hlookup⟩
    refine ⟨id, ?_, by simp [hlookup]⟩
    rw [horder.mem_iff, ← AList.mem_keys, Map.mem_iff_lookup]
    exact ⟨_, hlookup⟩

end

end SessionManager

end myngrok.gateway
