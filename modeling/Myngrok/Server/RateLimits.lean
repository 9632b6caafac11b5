import Myngrok.Auth.RateLimiter
import Myngrok.RateLimit.FixedWindow

open golang ratelimit myngrok.tunnels myngrok.auth

namespace myngrok.tunnels.PublicRateLimiter

variable {l : PublicRateLimiter} {limit : Nat} {window : Duration} {key : GoString} {now last : Time}

def toWindow (entry : PublicRateEntry) : Window := { started := entry.started, count := entry.count }

/-- The window of each key. -/
def view (l : PublicRateLimiter) (key : GoString) : Option Window := (l.entries.lookup key).map toWindow

/-- No entry is Go's zero value, or from the future. -/
structure Fits (limit : Nat) (window : Duration) (l : PublicRateLimiter) (last : Time) : Prop where
  limit : l.limit = limit
  window : l.window = window
  started : ∀ key entry, l.entries.lookup key = some entry → entry.started ≠ 0 ∧ entry.started ≤ last

theorem lookup_expire (l : PublicRateLimiter) (now : Time) (key : GoString) :
    (l.expire now).lookup key =
      (l.entries.lookup key).filter fun entry => decide (Time.sub now entry.started < l.window) := by
  rw [expire, Map.lookup_foldl_sweep]
  · split
    · rfl
    · next hmem =>
      rw [AList.lookup_eq_none.mpr fun h => hmem (AList.mem_keys.mp h)]
      rfl
  · intro m key query
    by_cases hquery : query = key
    · subst hquery
      rw [if_pos rfl]
      cases hentry : m.lookup query with
      | none => exact hentry
      | some entry =>
        dsimp only
        rw [Option.filter_some]
        split
        · next hover => rw [AList.lookup_erase, if_neg (by simpa using hover)]
        · next hlive => rw [hentry, if_pos (by simpa using hlive)]
    · rw [if_neg hquery]
      split
      · split
        · exact AList.lookup_erase_ne hquery
        · rfl
      · rfl

/-- The ways a call can go: it opens a window, it finds a full one, or it counts in one. -/
theorem allow_cases (l : PublicRateLimiter) (key : GoString) (now : Time) :
    ((∀ entry, (l.expire now).lookup key = some entry → entry.started = 0) ∧
      l.allow key now = ((true, 0), { l with entries := (l.expire now).insert key { started := now, count := 1 } })) ∨
    ∃ entry, (l.expire now).lookup key = some entry ∧ entry.started ≠ 0 ∧ Time.sub now entry.started < l.window ∧
      ((l.limit ≤ entry.count ∧
          l.allow key now = ((false, l.window - Time.sub now entry.started), { l with entries := l.expire now })) ∨
        (entry.count < l.limit ∧ l.allow key now =
          ((true, 0), { l with entries := (l.expire now).insert key { entry with count := entry.count + 1 } }))) := by
  unfold allow
  dsimp only
  cases hentry : (l.expire now).lookup key with
  | none =>
    rw [Option.getD_none, if_pos (.inl rfl)]
    exact .inl ⟨nofun, rfl⟩
  | some entry =>
    have hlive : Time.sub now entry.started < l.window := by
      rw [lookup_expire] at hentry
      exact of_decide_eq_true (Option.filter_eq_some_iff.mp hentry).2
    rw [Option.getD_some]
    by_cases hzero : entry.started = 0
    · rw [if_pos (.inl hzero)]
      refine .inl ⟨?_, rfl⟩
      rintro _ ⟨⟩
      exact hzero
    · rw [if_neg (not_or.mpr ⟨hzero, Int.not_le.mpr hlive⟩)]
      refine .inr ⟨entry, rfl, hzero, hlive, ?_⟩
      by_cases hfull : l.limit ≤ entry.count
      · exact .inl ⟨hfull, if_pos hfull⟩
      · exact .inr ⟨Nat.lt_of_not_le hfull, if_neg hfull⟩

/-- The loop leaves what is live. -/
theorem view_expire (hwindow : l.window < 2 ^ 63) (hpos : 0 < l.window) (key : GoString) :
    ((l.expire now).lookup key).map toWindow = live l.window now (l.view key) := by
  rw [lookup_expire, view, live]
  cases l.entries.lookup key with
  | none => rfl
  | some entry =>
    have hsame : Time.sub now entry.started < l.window ↔ now - (toWindow entry).started < l.window :=
      Time.sub_lt_iff hpos hwindow
    simp only [Option.map_some, Option.filter_some, decide_eq_true_eq, hsame]
    split
    · rfl
    · rfl

/-- `allow` is what the counter of the key says, and the other windows are left, unless they are over. -/
theorem allow_view (hfits : Fits limit window l last) (hlast : last ≤ now) (hnow : now ≠ 0) (hwindow : window < 2 ^ 63)
    (hpos : 0 < window) :
    (l.allow key now).1 = (tableAllow limit window l.view key now).1 ∧
      (l.allow key now).2.view = (tableAllow limit window l.view key now).2 ∧
      Fits limit window (l.allow key now).2 now := by
  obtain ⟨rfl, rfl, hstarted⟩ := hfits
  have hlookup : ∀ query entry, (l.expire now).lookup query = some entry →
      entry.started ≠ 0 ∧ entry.started ≤ now ∧ now - entry.started < l.window := by
    intro query entry hentry
    rw [lookup_expire, Option.filter_eq_some_iff, decide_eq_true_eq, Time.sub_lt_iff hpos hwindow] at hentry
    obtain ⟨hzero, hbefore⟩ := hstarted query entry hentry.1
    exact ⟨hzero, Int.le_trans hbefore hlast, hentry.2⟩
  -- What an insertion makes of the windows.
  have hinsert : ∀ (entry : PublicRateEntry),
      view { l with entries := (l.expire now).insert key entry } =
        Function.update (fun other => live l.window now (l.view other)) key (some (toWindow entry)) := by
    intro entry
    funext query
    rw [view, Map.lookup_insert_eq, Function.update_apply]
    split
    · rfl
    · exact view_expire hwindow hpos query
  have hfits : ∀ (entry : PublicRateEntry), entry.started ≠ 0 → entry.started ≤ now →
      Fits l.limit l.window { l with entries := (l.expire now).insert key entry } now := by
    intro entry hzero hbefore
    refine ⟨rfl, rfl, fun query found hfound => ?_⟩
    rw [Map.lookup_insert_eq] at hfound
    split at hfound
    · cases hfound
      exact ⟨hzero, hbefore⟩
    · exact ⟨(hlookup query found hfound).1, (hlookup query found hfound).2.1⟩
  have hcount := @count_live l.limit l.window now (l.view key)
  have hkey := @view_expire l now hwindow hpos key
  rcases allow_cases l key now with ⟨hnone, hallow⟩ | ⟨entry, hentry, hzero, hlive, ⟨hfull, hallow⟩ | ⟨hroom, hallow⟩⟩
  · -- An entry with Go's zero time would be taken for none, but there is no such entry.
    have habsent : (l.expire now).lookup key = none := by
      apply Option.eq_none_iff_forall_ne_some.mpr
      intro entry hentry
      exact (hlookup key entry hentry).1 (hnone entry hentry)
    rw [habsent] at hkey
    rw [tableAllow, hcount, count, ← hkey, hallow]
    exact ⟨rfl, hinsert _, hfits _ hnow (Int.le_refl now)⟩
  · obtain ⟨_, hbefore, hshort⟩ := hlookup key entry hentry
    rw [hentry] at hkey
    rw [tableAllow, hcount, count, ← hkey, hallow, Time.sub_eq (Int.le_trans (by decide) (Int.sub_nonneg.mpr hbefore))
      (Int.lt_trans hshort hwindow)]
    dsimp only [Option.map_some]
    rw [if_pos (show l.limit ≤ (toWindow entry).count from hfull)]
    refine ⟨rfl, ?_, rfl, rfl, fun query found hfound => ?_⟩
    · funext query
      rw [Function.update_apply]
      split
      · next hquery => rw [view, hquery, hentry, Option.map_some]
      · exact view_expire hwindow hpos query
    · exact ⟨(hlookup query found hfound).1, (hlookup query found hfound).2.1⟩
  · obtain ⟨_, hbefore, _⟩ := hlookup key entry hentry
    rw [hentry] at hkey
    rw [tableAllow, hcount, count, ← hkey, hallow]
    dsimp only [Option.map_some]
    rw [if_neg (show ¬l.limit ≤ (toWindow entry).count from Nat.not_le.mpr hroom)]
    exact ⟨rfl, hinsert _, hfits _ hzero hbefore⟩

theorem implements (limit : Nat) (hpos : 0 < window) (hwindow : window < 2 ^ 63) :
    Implements limit window PublicRateLimiter.allow view (· ≠ 0) (Fits limit window) where
  decision hfits hlast hnow := (allow_view hfits hlast hnow hwindow hpos).1
  windows hfits hlast hnow := (allow_view hfits hlast hnow hwindow hpos).2.1
  fits hfits hlast hnow := (allow_view hfits hlast hnow hwindow hpos).2.2

theorem fits_new (limit : Nat) (window : Duration) (last : Time) :
    Fits limit window (newPublicRateLimiter limit window) last :=
  ⟨rfl, rfl, nofun⟩

end myngrok.tunnels.PublicRateLimiter

namespace myngrok.auth.AuthRateLimiter

/-- The table that the limiter of the public handler implements, under other names. -/
theorem implements (limit : Nat) {window : Duration} (hpos : 0 < window) (hwindow : window < 2 ^ 63) :
    Implements limit window AuthRateLimiter.allow (fun l => l.toPublicRateLimiter.view) (· ≠ 0)
      (fun l => PublicRateLimiter.Fits limit window l.toPublicRateLimiter) where
  decision hfits hlast hnow := (PublicRateLimiter.implements limit hpos hwindow).decision hfits hlast hnow
  windows hfits hlast hnow := (PublicRateLimiter.implements limit hpos hwindow).windows hfits hlast hnow
  fits hfits hlast hnow := (PublicRateLimiter.implements limit hpos hwindow).fits hfits hlast hnow

end myngrok.auth.AuthRateLimiter

namespace myngrok.server

/-- Calls of `allow`, each with a key and the time that the caller has read: the clock does not go back, and is never at
    Go's zero time. -/
structure Clocked (calls : List (GoString × Time)) : Prop where
  ordered : calls.Pairwise (·.2 ≤ ·.2)
  nonzero : ∀ call ∈ calls, call.2 ≠ 0

/-- What a limiter with fixed windows owes its callers, over every sequence of calls. -/
structure FixedWindows {S : Type} (allow : S → GoString → Time → (Bool × Duration) × S) (new : S)
    (entries : S → Map GoString PublicRateEntry) (limit : Nat) (window : Duration) : Prop where
  /-- A key is told what a counter would tell it that sees no other key. -/
  alone : ∀ calls, Clocked calls → ∀ key,
    ((log allow new calls).filter (·.1 = key)).map Prod.snd =
      countLog limit window none ((calls.filter (·.1 = key)).map Prod.snd)
  /-- The calls of a key that are allowed from `start` on, for as long as a window takes. -/
  bursts : ∀ calls, Clocked calls → ∀ key start,
    ((log allow new calls).filter fun call =>
      call.1 = key ∧ call.2.2.1 = true ∧ start ≤ call.2.1 ∧ call.2.1 < start + window).length ≤ 2 * limit - 1
  /-- The entries after a call. -/
  fresh : ∀ calls key now, Clocked (calls ++ [(key, now)]) → ∀ other entry,
    (entries (after allow new (calls ++ [(key, now)]))).lookup other = some entry → now - entry.started < window

variable {S : Type} {allow : S → GoString → Time → (Bool × Duration) × S} {new : S}
  {entries : S → Map GoString PublicRateEntry} {limit : Nat} {window : Duration}
  {view : S → GoString → Option Window} {Fits : S → Time → Prop}

/-- The clock starts somewhere. -/
theorem Clocked.from_first {calls : List (GoString × Time)} (h : Clocked calls) :
    ∃ last, ∀ call ∈ calls, last ≤ call.2 ∧ call.2 ≠ 0 := by
  cases calls with
  | nil => exact ⟨0, nofun⟩
  | cons first rest =>
    refine ⟨first.2, fun call hmem => ⟨?_, h.nonzero call hmem⟩⟩
    rcases List.mem_cons.mp hmem with rfl | hlater
    · exact Int.le_refl _
    · exact (List.pairwise_cons.mp h.ordered).1 call hlater

theorem fixedWindows_of_implements (himplements : Implements limit window allow view (· ≠ 0) Fits)
    (hview : ∀ l key, view l key = ((entries l).lookup key).map PublicRateLimiter.toWindow)
    (hnew : entries new = ∅) (hfits : ∀ last, Fits new last) (hlimit : 1 ≤ limit) (hpos : 0 < window) :
    FixedWindows allow new entries limit window := by
  have hempty : ∀ key, view new key = none := by
    intro key
    rw [hview, hnew]
    rfl
  have halone : ∀ calls, Clocked calls → ∀ key,
      ((log allow new calls).filter (·.1 = key)).map Prod.snd =
        countLog limit window none ((calls.filter (·.1 = key)).map Prod.snd) := by
    intro calls hcalls key
    obtain ⟨last, hlast⟩ := hcalls.from_first
    exact himplements.log_key (hfits last) hempty hcalls.ordered hlast key
  refine ⟨halone, fun calls hcalls key start => ?_, fun calls key now hcalls other entry hentry => ?_⟩
  · have hordered : ((calls.filter (·.1 = key)).map Prod.snd).Pairwise (· ≤ ·) :=
      List.pairwise_map.mpr (hcalls.ordered.filter _)
    have hbound := @passed_le limit window none start _ hlimit hordered nofun
    rw [← halone calls hcalls key, passed, List.countP_map, List.countP_filter, List.countP_eq_length_filter] at hbound
    refine Nat.le_trans (Nat.le_of_eq (congrArg List.length (List.filter_congr ?_))) hbound
    intro call _
    simp only [Function.comp_apply, Bool.decide_and, Bool.decide_eq_true, Bool.and_comm, Bool.and_left_comm]
  · obtain ⟨last, hlast⟩ := hcalls.from_first
    have hwindow : view (after allow new (calls ++ [(key, now)])) other = some (PublicRateLimiter.toWindow entry) := by
      rw [hview, hentry]
      rfl
    exact himplements.fresh hpos (hfits last) hcalls.ordered hlast hwindow

/-- Both limiters, for every limit and every length of the window: keys do not influence each other, bursts are bounded,
    and nothing stale is kept. -/
theorem rateLimiters_fixedWindows (limit : Nat) (window : Duration) (hlimit : 1 ≤ limit) (hpos : 0 < window)
    (hwindow : window < 2 ^ 63) :
    FixedWindows PublicRateLimiter.allow (newPublicRateLimiter limit window) (·.entries) limit window ∧
      FixedWindows AuthRateLimiter.allow (newAuthRateLimiter limit window) (·.entries) limit window :=
  ⟨fixedWindows_of_implements (PublicRateLimiter.implements limit hpos hwindow) (fun _ _ => rfl) rfl
      (PublicRateLimiter.fits_new limit window) hlimit hpos,
    fixedWindows_of_implements (AuthRateLimiter.implements limit hpos hwindow) (fun _ _ => rfl) rfl
      (PublicRateLimiter.fits_new limit window) hlimit hpos⟩

theorem fixedWindows_of_login_limits :
    (1 ≤ authRateLimit ∧ 0 < authRateWindow ∧ authRateWindow < 2 ^ 63) ∧
      FixedWindows AuthRateLimiter.allow (newAuthRateLimiter authRateLimit authRateWindow) (·.entries) authRateLimit
        authRateWindow :=
  ⟨by decide, (rateLimiters_fixedWindows authRateLimit authRateWindow (by decide) (by decide) (by decide)).2⟩

end myngrok.server
