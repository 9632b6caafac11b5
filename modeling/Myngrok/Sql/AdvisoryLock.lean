import Mathlib.Tactic.Common

namespace sql

/-- One advisory lock of PostgreSQL, of the kind that sessions hold: its holder, and how often the holder still has to
    unlock it. -/
abbrev AdvisoryLock (Session : Type) := Option (Session × Nat)

namespace AdvisoryLock

variable {Session : Type} [DecidableEq Session]

/-- `pg_advisory_lock`: a session that holds the lock gets it once more, others wait. -/
def acquire (lock : AdvisoryLock Session) (session : Session) : Option (AdvisoryLock Session) :=
  match lock with
  | none => some (some (session, 1))
  | some (holder, depth) => if holder = session then some (some (session, depth + 1)) else none

/-- `pg_advisory_unlock`, which does nothing for a session that does not hold the lock. -/
def release (lock : AdvisoryLock Session) (session : Session) : AdvisoryLock Session :=
  match lock with
  | none => none
  | some (holder, depth) =>
    if holder = session then (if depth ≤ 1 then none else some (session, depth - 1)) else some (holder, depth)

/-- A session ends, and gives the lock back however often it holds it. -/
def disconnect (lock : AdvisoryLock Session) (session : Session) : AdvisoryLock Session :=
  lock.filter fun held => held.1 ≠ session

def HeldBy (lock : AdvisoryLock Session) (session : Session) : Prop := ∃ depth, lock = some (session, depth)

variable {lock next : AdvisoryLock Session} {session other : Session}

omit [DecidableEq Session] in
theorem HeldBy.unique (h : lock.HeldBy session) (h' : lock.HeldBy other) : session = other := by
  obtain ⟨depth, rfl⟩ := h
  obtain ⟨depth', heq⟩ := h'
  cases heq
  rfl

/-- A lock that another session holds is not to be had. -/
theorem acquire_spec (h : lock.acquire session = some next) :
    next.HeldBy session ∧ ∀ other, other ≠ session → ¬lock.HeldBy other := by
  unfold acquire at h
  split at h
  · cases h
    exact ⟨⟨1, rfl⟩, by rintro other _ ⟨depth, ⟨⟩⟩⟩
  · split at h
    · next hholder =>
      cases h
      refine ⟨⟨_, rfl⟩, ?_⟩
      rintro other hother ⟨depth, ⟨⟩⟩
      exact hother hholder
    · cases h

theorem HeldBy.release (h : lock.HeldBy other) (hne : other ≠ session) : (lock.release session).HeldBy other := by
  obtain ⟨depth, rfl⟩ := h
  exact ⟨depth, if_neg hne⟩

theorem HeldBy.disconnect (h : lock.HeldBy other) (hne : other ≠ session) : (lock.disconnect session).HeldBy other := by
  obtain ⟨depth, rfl⟩ := h
  exact ⟨depth, Option.filter_some_pos (decide_eq_true hne)⟩

end AdvisoryLock

end sql
