import Myngrok.Go.Map
import Myngrok.Go.Runtime

open golang

namespace myngrok.tunnels

def publicRateLimit : Nat := 120
def publicRateWindow : Duration := minute

/-- An entry that is not in the map is Go's zero value, whose start is the zero time. -/
structure PublicRateEntry where
  started : Time
  count : Nat
  deriving DecidableEq

structure PublicRateLimiter where
  limit : Nat
  window : Duration
  entries : Map GoString PublicRateEntry
  deriving DecidableEq

def newPublicRateLimiter (limit : Nat) (window : Duration) : PublicRateLimiter :=
  { limit, window, entries := ∅ }

namespace PublicRateLimiter

/-- The loop at the start of `allow`. It visits every key once and looks at no other. -/
def expire (l : PublicRateLimiter) (now : Time) : Map GoString PublicRateEntry :=
  l.entries.keys.foldl (fun entries currentKey =>
    match entries.lookup currentKey with
    | some entry => if now.sub entry.started ≥ l.window then entries.erase currentKey else entries
    | none => entries) l.entries

/-- Whether the call may go on, and after what time to try again. -/
def allow (l : PublicRateLimiter) (key : GoString) (now : Time) : (Bool × Duration) × PublicRateLimiter :=
  let entries := l.expire now
  let entry := (entries.lookup key).getD { started := 0, count := 0 }
  if entry.started = 0 ∨ now.sub entry.started ≥ l.window then
    ((true, 0), { l with entries := entries.insert key { started := now, count := 1 } })
  else if entry.count ≥ l.limit then
    ((false, l.window - now.sub entry.started), { l with entries })
  else ((true, 0), { l with entries := entries.insert key { entry with count := entry.count + 1 } })

end PublicRateLimiter

end myngrok.tunnels
