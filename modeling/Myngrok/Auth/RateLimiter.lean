import Myngrok.Tunnels.RateLimiter

open golang

namespace myngrok.auth

def authRateLimit : Nat := 10
def authRateWindow : Duration := minute

/-- `auth/rate_limiter.go` has the text of `tunnels/rate_limiter.go`, under names of its own. -/
structure AuthRateLimiter extends tunnels.PublicRateLimiter
  deriving DecidableEq

def newAuthRateLimiter (limit : Nat) (window : Duration) : AuthRateLimiter :=
  { tunnels.newPublicRateLimiter limit window with }

def AuthRateLimiter.allow (l : AuthRateLimiter) (key : GoString) (now : Time) : (Bool × Duration) × AuthRateLimiter :=
  let (answer, l) := l.toPublicRateLimiter.allow key now
  (answer, { l with })

end myngrok.auth
