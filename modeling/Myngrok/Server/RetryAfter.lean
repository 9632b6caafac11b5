import Myngrok.Go.Float64
import Myngrok.Server.RateLimits

open golang ratelimit myngrok.tunnels myngrok.auth

namespace myngrok.tunnels.PublicRateLimiter

variable {l : PublicRateLimiter} {key other : GoString} {now : Time} {entry : PublicRateEntry} {retryAfter : Duration}
  {calls : List (GoString × Time)}

theorem allow_limit (l : PublicRateLimiter) (key : GoString) (now : Time) :
    (l.allow key now).2.limit = l.limit ∧ (l.allow key now).2.window = l.window := by
  rcases allow_cases l key now with ⟨_, hallow⟩ | ⟨_, _, _, _, ⟨_, hallow⟩ | ⟨_, hallow⟩⟩
  all_goals
    rw [hallow]
    exact ⟨rfl, rfl⟩

theorem after_window (l : PublicRateLimiter) (calls : List (GoString × Time)) :
    (after allow l calls).window = l.window := by
  induction calls generalizing l with
  | nil => rfl
  | cons call calls ih => exact (ih _).trans (allow_limit l call.1 call.2).2

theorem lookup_of_expire (hlookup : (l.expire now).lookup key = some entry) :
    l.entries.lookup key = some entry ∧ Time.sub now entry.started < l.window := by
  rw [lookup_expire, Option.filter_eq_some_iff, decide_eq_true_eq] at hlookup
  exact hlookup

/-- What a call finds that is turned away, and what it leaves. -/
theorem denied (hdenied : (l.allow key now).1 = (false, retryAfter)) :
    ∃ entry, (l.allow key now).2.entries.lookup key = some entry ∧ l.entries.lookup key = some entry ∧
      entry.started ≠ 0 ∧ l.limit ≤ entry.count ∧ Time.sub now entry.started < l.window ∧
      retryAfter = l.window - Time.sub now entry.started := by
  rcases allow_cases l key now with ⟨_, hallow⟩ | ⟨entry, hentry, hzero, hlive, ⟨hfull, hallow⟩ | ⟨_, hallow⟩⟩
  · rw [hallow] at hdenied
    cases hdenied
  · rw [hallow] at hdenied ⊢
    cases hdenied
    exact ⟨entry, hentry, (lookup_of_expire hentry).1, hzero, hfull, hlive, rfl⟩
  · rw [hallow] at hdenied
    cases hdenied

theorem allowed_of_over (hover : ∀ entry, l.entries.lookup key = some entry → l.window ≤ Time.sub now entry.started) :
    (l.allow key now).1.1 = true := by
  rcases allow_cases l key now with ⟨_, hallow⟩ | ⟨entry, hentry, _, hlive, _⟩
  · rw [hallow]
  · exact absurd hlive (Int.not_lt.mpr (hover entry (lookup_of_expire hentry).1))

theorem denied_of_full (hlookup : l.entries.lookup key = some entry) (hzero : entry.started ≠ 0)
    (hfull : l.limit ≤ entry.count) (hlive : Time.sub now entry.started < l.window) : (l.allow key now).1.1 = false := by
  have hexpire : (l.expire now).lookup key = some entry := by
    rw [lookup_expire, hlookup, Option.filter_some, if_pos (decide_eq_true hlive)]
  rcases allow_cases l key now with ⟨hnone, _⟩ | ⟨found, hfound, _, _, ⟨_, hallow⟩ | ⟨hroom, _⟩⟩
  · exact absurd (hnone entry hexpire) hzero
  · rw [hallow]
  · rw [hexpire] at hfound
    cases hfound
    exact absurd hfull (Nat.not_le.mpr hroom)

/-- An entry that is there after a call was there before, or is the one that the call counts. -/
theorem lookup_allow (hlookup : (l.allow key now).2.entries.lookup other = some entry) :
    l.entries.lookup other = some entry ∨
      other = key ∧ (entry.started = now ∨ ∃ before, l.entries.lookup key = some before ∧ entry.started = before.started) := by
  rcases allow_cases l key now with ⟨_, hallow⟩ | ⟨before, hbefore, _, _, ⟨_, hallow⟩ | ⟨_, hallow⟩⟩
  · rw [hallow, Map.lookup_insert_eq] at hlookup
    split at hlookup
    · next hkey =>
      cases hlookup
      exact .inr ⟨hkey, .inl rfl⟩
    · exact .inl (lookup_of_expire hlookup).1
  · rw [hallow] at hlookup
    exact .inl (lookup_of_expire hlookup).1
  · rw [hallow, Map.lookup_insert_eq] at hlookup
    split at hlookup
    · next hkey =>
      cases hlookup
      exact .inr ⟨hkey, .inr ⟨before, (lookup_of_expire hbefore).1, rfl⟩⟩
    · exact .inl (lookup_of_expire hlookup).1

/-- The calls of others can only throw the entry of a key out. -/
theorem lookup_after_others (hothers : ∀ call ∈ calls, call.1 ≠ key)
    (hlookup : (after allow l calls).entries.lookup key = some entry) : l.entries.lookup key = some entry := by
  induction calls generalizing l with
  | nil => exact hlookup
  | cons call calls ih =>
    have hrest := ih (fun call hmem => hothers call (List.mem_cons_of_mem _ hmem)) hlookup
    rcases lookup_allow hrest with hbefore | ⟨hkey, _⟩
    · exact hbefore
    · exact absurd hkey.symm (hothers call List.mem_cons_self)

/-- Every window has started with a call. -/
theorem started_after (Called : Time → Prop)
    (hentries : ∀ key entry, l.entries.lookup key = some entry → Called entry.started)
    (hcalls : ∀ call ∈ calls, Called call.2) :
    ∀ key entry, (after allow l calls).entries.lookup key = some entry → Called entry.started := by
  induction calls generalizing l with
  | nil => exact hentries
  | cons call calls ih =>
    refine ih ?_ fun call hmem => hcalls call (List.mem_cons_of_mem _ hmem)
    intro key entry hlookup
    rcases lookup_allow hlookup with hbefore | ⟨_, hstarted | ⟨before, hbefore, hstarted⟩⟩
    · exact hentries key entry hbefore
    · rw [hstarted]
      exact hcalls call List.mem_cons_self
    · rw [hstarted]
      exact hentries _ before hbefore

end myngrok.tunnels.PublicRateLimiter

namespace myngrok.server

/-- The seconds that both handlers write into `Retry-After`. -/
def retryAfterSeconds (retryAfter : Duration) : Int := max 1 (float64.toInt (Duration.seconds retryAfter))

/-- Who is turned away at `now` and comes back after `seconds` or later, without another try in between, is let in:
    whatever the others do meanwhile. -/
def Sufficient {S : Type} (allow : S → GoString → Time → (Bool × Duration) × S) (l : S) (key : GoString) (now : Time)
    (seconds : Int) : Prop :=
  ∀ others : List (GoString × Time), (∀ call ∈ others, call.1 ≠ key) →
    ∀ later, now + seconds * second ≤ later → (allow (after allow (allow l key now).2 others) key later).1.1 = true

/-- The durations that lose nothing in whole seconds: at most one, a whole number of them, or so long that `Seconds`
    rounds up to the next whole number. -/
def WholeSeconds (retryAfter : Duration) : Prop :=
  retryAfter ≤ second ∨ second ∣ retryAfter ∨ Duration.seconds retryAfter = (retryAfter / second + 1 : Int)

variable {l : PublicRateLimiter} {key : GoString} {now : Time} {retryAfter : Duration}

theorem le_retryAfterSeconds_iff (hpos : 0 < retryAfter) (hlt : retryAfter < 2 ^ 63) :
    retryAfter ≤ retryAfterSeconds retryAfter * second ↔ WholeSeconds retryAfter := by
  have hwhole := (Duration.seconds_bounds hpos.le hlt).2.2
  have hnext : Duration.seconds retryAfter = (retryAfter / second + 1 : Int) → ¬second ∣ retryAfter := by
    intro hnext hdvd
    rw [hwhole hdvd] at hnext
    have := Int.cast_injective hnext
    omega
  rw [retryAfterSeconds, toInt_seconds hpos.le hlt, WholeSeconds]
  split
  · next h =>
    refine iff_of_true ?_ (.inr (.inr h))
    simp only [Duration, second] at *
    omega
  · next h =>
    simp only [h, or_false]
    simp only [Duration, second] at *
    omega

/-- The rest of the window, exactly. -/
theorem denied_rest (hdenied : (l.allow key now).1 = (false, retryAfter)) (hpos : 0 < l.window)
    (hwindow : l.window < 2 ^ 63)
    (hspan : ∀ entry, l.entries.lookup key = some entry → l.window + (entry.started - now) < 2 ^ 63) :
    ∃ entry, (l.allow key now).2.entries.lookup key = some entry ∧ entry.started ≠ 0 ∧ l.limit ≤ entry.count ∧
      retryAfter = l.window - (now - entry.started) ∧ 0 < retryAfter ∧ retryAfter < 2 ^ 63 := by
  obtain ⟨entry, hleft, hbefore, hzero, hfull, hlive, hretry⟩ := PublicRateLimiter.denied hdenied
  have hspan := hspan entry hbefore
  rw [Time.sub_lt_iff hpos hwindow] at hlive
  have hsub : Time.sub now entry.started = now - entry.started := by
    apply Time.sub_eq
    · simp only [Duration, Time] at *
      omega
    · exact Int.lt_trans hlive hwindow
  rw [hsub] at hretry
  refine ⟨entry, hleft, hzero, hfull, hretry, ?_, ?_⟩
  · rw [hretry]
    exact Int.sub_pos_of_lt hlive
  · simp only [Duration, Time] at *
    omega

/-- The call is let in exactly when the rest of the window is over by then. -/
theorem sufficient_iff_le {seconds : Int} (hdenied : (l.allow key now).1 = (false, retryAfter)) (hpos : 0 < l.window)
    (hwindow : l.window < 2 ^ 63)
    (hspan : ∀ entry, l.entries.lookup key = some entry → l.window + (entry.started - now) < 2 ^ 63) :
    Sufficient PublicRateLimiter.allow l key now seconds ↔ retryAfter ≤ seconds * second := by
  obtain ⟨entry, hleft, hzero, hfull, hretry, _⟩ := denied_rest hdenied hpos hwindow hspan
  obtain ⟨hlimit', hwindow'⟩ := PublicRateLimiter.allow_limit l key now
  constructor
  · intro hsufficient
    by_contra hshort
    have hallowed := hsufficient [] nofun (now + seconds * second) (Int.le_refl _)
    have hstill : Time.sub (now + seconds * second) entry.started < (l.allow key now).2.window := by
      rw [hwindow', Time.sub_lt_iff hpos hwindow]
      simp only [Duration, Time] at *
      omega
    rw [after, List.foldl_nil, PublicRateLimiter.denied_of_full hleft hzero (hlimit' ▸ hfull) hstill] at hallowed
    cases hallowed
  · intro henough others hothers later hlater
    apply PublicRateLimiter.allowed_of_over
    intro found hfound
    have hsame := PublicRateLimiter.lookup_after_others hothers hfound
    rw [hleft] at hsame
    cases hsame
    rw [PublicRateLimiter.after_window, hwindow', ← Int.not_lt, Time.sub_lt_iff hpos hwindow]
    simp only [Duration, Time] at *
    omega

section reachable

variable {limit : Nat} {window : Duration} {calls : List (GoString × Time)}

theorem public_sufficient_iff (hpos : 0 < window) (hwindow : window < 2 ^ 63)
    (hspan : ∀ call ∈ calls, window + (call.2 - now) < 2 ^ 63)
    (hdenied : ((after PublicRateLimiter.allow (newPublicRateLimiter limit window) calls).allow key now).1 =
      (false, retryAfter)) :
    (Sufficient PublicRateLimiter.allow (after PublicRateLimiter.allow (newPublicRateLimiter limit window) calls) key now
      (retryAfterSeconds retryAfter) ↔ WholeSeconds retryAfter) ∧ 0 < retryAfter := by
  have hafter := PublicRateLimiter.after_window (newPublicRateLimiter limit window) calls
  have hstarted := @PublicRateLimiter.started_after (newPublicRateLimiter limit window) calls
    (fun started => window + (started - now) < 2 ^ 63) nofun hspan key
  generalize after PublicRateLimiter.allow (newPublicRateLimiter limit window) calls = l at *
  obtain rfl : l.window = window := hafter
  obtain ⟨_, _, _, _, _, hrest, hshort⟩ := denied_rest hdenied hpos hwindow hstarted
  exact ⟨(sufficient_iff_le hdenied hpos hwindow hstarted).trans (le_retryAfterSeconds_iff hrest hshort), hrest⟩

theorem auth_after (l : AuthRateLimiter) (calls : List (GoString × Time)) :
    (after AuthRateLimiter.allow l calls).toPublicRateLimiter =
      after PublicRateLimiter.allow l.toPublicRateLimiter calls := by
  induction calls generalizing l with
  | nil => rfl
  | cons call calls ih => exact ih _

theorem auth_sufficient_iff {l : AuthRateLimiter} {seconds : Int} :
    Sufficient AuthRateLimiter.allow l key now seconds ↔
      Sufficient PublicRateLimiter.allow l.toPublicRateLimiter key now seconds := by
  have hsame : ∀ others later,
      (AuthRateLimiter.allow (after AuthRateLimiter.allow (l.allow key now).2 others) key later).1.1 =
        (PublicRateLimiter.allow (after PublicRateLimiter.allow (l.toPublicRateLimiter.allow key now).2 others) key
          later).1.1 := by
    intro others later
    have hafter := auth_after (l.allow key now).2 others
    exact congrArg (fun l => (PublicRateLimiter.allow l key later).1.1) hafter
  constructor
  · intro hsufficient others hothers later hlater
    rw [← hsame]
    exact hsufficient others hothers later hlater
  · intro hsufficient others hothers later hlater
    rw [hsame]
    exact hsufficient others hothers later hlater

/-- For both limiters and after any calls: the seconds in `Retry-After` suffice just when the rest of the window loses
    nothing in them. Below 194 days, it has to be a whole number of seconds then, unless it is less than one. The 64
    bits of `Duration` are assumed to suffice. -/
theorem retryAfter_sufficient_iff (hpos : 0 < window) (hwindow : window < 2 ^ 63)
    (hspan : ∀ call ∈ calls, window + (call.2 - now) < 2 ^ 63) :
    (((after PublicRateLimiter.allow (newPublicRateLimiter limit window) calls).allow key now).1 = (false, retryAfter) →
      (Sufficient PublicRateLimiter.allow (after PublicRateLimiter.allow (newPublicRateLimiter limit window) calls) key
        now (retryAfterSeconds retryAfter) ↔ WholeSeconds retryAfter) ∧
      (retryAfter < 2 ^ 24 * second → (WholeSeconds retryAfter ↔ retryAfter ≤ second ∨ second ∣ retryAfter))) ∧
    (((after AuthRateLimiter.allow (newAuthRateLimiter limit window) calls).allow key now).1 = (false, retryAfter) →
      (Sufficient AuthRateLimiter.allow (after AuthRateLimiter.allow (newAuthRateLimiter limit window) calls) key
        now (retryAfterSeconds retryAfter) ↔ WholeSeconds retryAfter) ∧
      (retryAfter < 2 ^ 24 * second → (WholeSeconds retryAfter ↔ retryAfter ≤ second ∨ second ∣ retryAfter))) := by
  have hshort : 0 < retryAfter → retryAfter < 2 ^ 24 * second →
      (WholeSeconds retryAfter ↔ retryAfter ≤ second ∨ second ∣ retryAfter) := by
    intro hrest hshort
    have hnext := (Duration.seconds_lt hrest.le hshort).ne
    rw [WholeSeconds]
    simp only [hnext, or_false]
  refine ⟨fun hdenied => ?_, fun hdenied => ?_⟩
  · obtain ⟨hiff, hrest⟩ := public_sufficient_iff hpos hwindow hspan hdenied
    exact ⟨hiff, hshort hrest⟩
  · rw [AuthRateLimiter.allow, auth_after] at hdenied
    obtain ⟨hiff, hrest⟩ := public_sufficient_iff hpos hwindow hspan hdenied
    rw [auth_sufficient_iff, auth_after]
    exact ⟨hiff, hshort hrest⟩

end reachable

section sample

def sampleIP : GoString := lit "203.0.113.7"

/-- Ten logins at one time use up the window of an address. -/
def loginCalls : List (GoString × Time) := List.replicate 10 (sampleIP, minute)

def loginLimiter : AuthRateLimiter :=
  after AuthRateLimiter.allow (newAuthRateLimiter authRateLimit authRateWindow) loginCalls

/-- 59.5 seconds. -/
def loginRest : Duration := 59500000000

theorem retryAfterSeconds_loginRest : retryAfterSeconds loginRest = 59 := by
  have hnext := (Duration.seconds_lt (show 0 ≤ loginRest by decide) (by decide)).ne
  rw [retryAfterSeconds, toInt_seconds (by decide) (by decide), if_neg hnext]
  rfl

/-- The eleventh login, half a second later, is told to come back after 59 seconds, and is turned away again. -/
theorem retryAfter_too_short :
    (loginLimiter.allow sampleIP (minute + 500000000)).1 = (false, loginRest) ∧
      retryAfterSeconds loginRest = 59 ∧
      ((loginLimiter.allow sampleIP (minute + 500000000)).2.allow sampleIP
        (minute + 500000000 + 59 * second)).1.1 = false :=
  ⟨by decide +kernel, retryAfterSeconds_loginRest, by decide +kernel⟩

/-- A second after the ten, 59 seconds are left, and suffice. -/
theorem retryAfter_of_whole_second :
    (loginLimiter.allow sampleIP (minute + second)).1 = (false, 59 * second) ∧
      Sufficient AuthRateLimiter.allow loginLimiter sampleIP (minute + second) (retryAfterSeconds (59 * second)) := by
  have hdenied : (loginLimiter.allow sampleIP (minute + second)).1 = (false, 59 * second) := by decide +kernel
  have hcalls : ∀ call ∈ loginCalls, authRateWindow + (call.2 - (minute + second)) < 2 ^ 63 := by decide
  have hboth := @retryAfter_sufficient_iff sampleIP (minute + second) (59 * second) authRateLimit authRateWindow
    loginCalls (by decide) (by decide) hcalls
  exact ⟨hdenied, (hboth.2 hdenied).1.mpr (.inr (.inl (Dvd.intro_left 59 rfl)))⟩

end sample

end myngrok.server
