import Mathlib.Data.List.Basic
import Mathlib.Data.List.Pairwise
import Mathlib.Logic.Function.Basic
import Mathlib.Tactic.Common

namespace ratelimit

/-- The window of a key: when it started, and how many calls it has let pass. -/
structure Window where
  started : Int
  count : Nat
  deriving DecidableEq

/-- Whether a call may pass, and otherwise how long it has to wait. -/
abbrev Decision := Bool × Int

/-- The window as it counts at a time: not at all once it is over. -/
def live (length now : Int) (w : Option Window) : Option Window :=
  w.filter fun w => now - w.started < length

/-- A counter with fixed windows, for the calls of one key. -/
def count (limit : Nat) (length : Int) (w : Option Window) (now : Int) : Decision × Option Window :=
  match live length now w with
  | none => ((true, 0), some { started := now, count := 1 })
  | some w =>
    if limit ≤ w.count then ((false, length - (now - w.started)), some w)
    else ((true, 0), some { w with count := w.count + 1 })

/-- The calls of one key at some times, with what each is told. -/
def countLog (limit : Nat) (length : Int) : Option Window → List Int → List (Int × Decision)
  | _, [] => []
  | w, now :: times => (now, (count limit length w now).1) :: countLog limit length (count limit length w now).2 times

section limiters

variable {S K : Type}

/-- The calls of all keys, with what each is told by a limiter. -/
def log (allow : S → K → Int → Decision × S) : S → List (K × Int) → List (K × Int × Decision)
  | _, [] => []
  | s, (key, now) :: calls => (key, now, (allow s key now).1) :: log allow (allow s key now).2 calls

/-- The limiter after some calls. -/
def after (allow : S → K → Int → Decision × S) (s : S) (calls : List (K × Int)) : S :=
  calls.foldl (fun s call => (allow s call.1 call.2).2) s

variable [DecidableEq K]

/-- A window for each key. A call for one of them throws out all that are over. -/
def tableAllow (limit : Nat) (length : Int) (t : K → Option Window) (key : K) (now : Int) :
    Decision × (K → Option Window) :=
  let counted := count limit length (live length now (t key)) now
  (counted.1, Function.update (fun other => live length now (t other)) key counted.2)

/-- A limiter that goes by such a table, for calls at good times that never go back: `Fits s last` says that its state
    may be asked at `last` or later. -/
structure Implements (limit : Nat) (length : Int) (allow : S → K → Int → Decision × S)
    (view : S → K → Option Window) (Good : Int → Prop) (Fits : S → Int → Prop) : Prop where
  decision : ∀ {s last key now}, Fits s last → last ≤ now → Good now →
    (allow s key now).1 = (tableAllow limit length (view s) key now).1
  windows : ∀ {s last key now}, Fits s last → last ≤ now → Good now →
    view (allow s key now).2 = (tableAllow limit length (view s) key now).2
  fits : ∀ {s last key now}, Fits s last → last ≤ now → Good now → Fits (allow s key now).2 now

end limiters

variable {limit : Nat} {length now later : Int} {w : Option Window} {S K : Type} {v : Window} {t : K → Option Window}

theorem live_eq_some : live length now w = some v ↔ w = some v ∧ now - v.started < length := by
  rw [live, Option.filter_eq_some_iff, decide_eq_true_eq]

theorem live_live (h : now ≤ later) : live length later (live length now w) = live length later w := by
  apply Option.ext
  intro v
  rw [live_eq_some, live_eq_some, live_eq_some]
  constructor
  · rintro ⟨⟨hv, _⟩, hlater⟩
    exact ⟨hv, hlater⟩
  · rintro ⟨hv, hlater⟩
    exact ⟨⟨hv, by omega⟩, hlater⟩

/-- A window that is over does not count, whether it has been thrown out or not. -/
theorem count_live : count limit length (live length now w) now = count limit length w now := by
  rw [count, live_live (Int.le_refl now), count]

theorem after_concat (allow : S → K → Int → Decision × S) (s : S) (calls : List (K × Int)) (key : K) (now : Int) :
    after allow s (calls ++ [(key, now)]) = (allow (after allow s calls) key now).2 := by
  rw [after, List.foldl_append, ← after]
  rfl

section bursts

variable {start : Int} {times : List Int} {v : Window}

/-- The calls that pass in the interval of one length from `start` on. -/
def passed (length start : Int) (calls : List (Int × Decision)) : Nat :=
  calls.countP fun call => call.2.1 && decide (start ≤ call.1 ∧ call.1 < start + length)

theorem passed_cons (call : Int × Decision) (calls : List (Int × Decision)) :
    passed length start (call :: calls) = passed length start calls +
      if call.2.1 = true ∧ start ≤ call.1 ∧ call.1 < start + length then 1 else 0 := by
  rw [passed, List.countP_cons, ← passed]
  simp only [Bool.and_eq_true, decide_eq_true_eq]

theorem passed_late (hlate : ∀ now ∈ times, start + length ≤ now) :
    passed length start (countLog limit length w times) = 0 := by
  induction times generalizing w with
  | nil => rfl
  | cons now times ih =>
    have hnow := hlate now List.mem_cons_self
    rw [countLog, passed_cons, ih fun now hmem => hlate now (List.mem_cons_of_mem _ hmem), if_neg]
    rintro ⟨_, _, hearly⟩
    omega

/-- The ways a call can go: in a new window, or in the one that there is, until it is full. -/
theorem count_cases (limit : Nat) (length : Int) (w : Option Window) (now : Int) :
    (count limit length w now = ((true, 0), some { started := now, count := 1 }) ∧
      ∀ v, w = some v → length ≤ now - v.started) ∨
    ∃ v, w = some v ∧ now - v.started < length ∧
      ((limit ≤ v.count ∧ count limit length w now = ((false, length - (now - v.started)), some v)) ∨
        v.count < limit ∧ count limit length w now = ((true, 0), some { v with count := v.count + 1 })) := by
  rw [count]
  split
  · next hnone =>
    refine .inl ⟨rfl, ?_⟩
    rintro v rfl
    by_contra hlive
    rw [live_eq_some.mpr ⟨rfl, Int.not_le.mp hlive⟩] at hnone
    cases hnone
  · next v hlive =>
    obtain ⟨hv, hlive⟩ := live_eq_some.mp hlive
    refine .inr ⟨v, hv, hlive, ?_⟩
    split
    · next hfull => exact .inl ⟨hfull, rfl⟩
    · next hroom => exact .inr ⟨Nat.lt_of_not_le hroom, rfl⟩

/-- Of a window that starts in the interval only the rest can pass: the next one starts when the interval is over. -/
theorem passed_in_window (hordered : times.Pairwise (· ≤ ·)) (hstarted : start ≤ v.started) :
    passed length start (countLog limit length (some v) times) ≤ limit - v.count := by
  induction times generalizing v with
  | nil => exact Nat.zero_le _
  | cons now times ih =>
    obtain ⟨hfirst, hrest⟩ := List.pairwise_cons.mp hordered
    rcases count_cases limit length (some v) now with ⟨_, hover⟩ | ⟨_, ⟨⟩, _, ⟨_, hcount⟩ | ⟨hroom, hcount⟩⟩
    · have hlate : ∀ later ∈ now :: times, start + length ≤ later := by
        intro later hmem
        have hnow := hover v rfl
        rcases List.mem_cons.mp hmem with rfl | hmem
        · omega
        · have hlater := hfirst later hmem
          omega
      rw [passed_late hlate]
      exact Nat.zero_le _
    · have hbound := ih hrest hstarted
      rw [countLog, passed_cons, hcount, if_neg (by simp)]
      exact hbound
    · have hbound := @ih { v with count := v.count + 1 } hrest hstarted
      rw [countLog, passed_cons, hcount]
      dsimp only at hbound ⊢
      split <;> omega

/-- A window that is opened in the interval lets pass as many calls as it has room for. -/
theorem passed_new_window (hlimit : 1 ≤ limit) (hordered : (now :: times).Pairwise (· ≤ ·)) (hstart : start ≤ now) :
    passed length start ((now, true, 0) :: countLog limit length (some { started := now, count := 1 }) times) ≤
      limit := by
  have hbound := @passed_in_window limit length start times { started := now, count := 1 }
    (List.pairwise_cons.mp hordered).2 hstart
  rw [passed_cons]
  dsimp only at hbound
  split <;> omega

/-- At most two windows reach into an interval, and the first call of the earlier one lies before it. -/
theorem passed_across (hlimit : 1 ≤ limit) (hordered : times.Pairwise (· ≤ ·)) (hstart : ∀ now ∈ times, start ≤ now) :
    passed length start (countLog limit length (some v) times) ≤ limit - v.count + limit := by
  induction times generalizing v with
  | nil => exact Nat.zero_le _
  | cons now times ih =>
    obtain ⟨_, hrest⟩ := List.pairwise_cons.mp hordered
    have hlater : ∀ now ∈ times, start ≤ now := fun now hmem => hstart now (List.mem_cons_of_mem _ hmem)
    rcases count_cases limit length (some v) now with ⟨hcount, _⟩ | ⟨_, ⟨⟩, _, ⟨_, hcount⟩ | ⟨hroom, hcount⟩⟩
    · have hbound := @passed_new_window limit length now start times hlimit hordered (hstart now List.mem_cons_self)
      rw [countLog, hcount]
      exact Nat.le_trans hbound (Nat.le_add_left _ _)
    · have hbound := @ih v hrest hlater
      rw [countLog, passed_cons, hcount, if_neg (by simp)]
      exact hbound
    · have hbound := @ih { v with count := v.count + 1 } hrest hlater
      rw [countLog, passed_cons, hcount]
      dsimp only at hbound ⊢
      split <;> omega

/-- The bound on bursts. -/
theorem passed_le (hlimit : 1 ≤ limit) (hordered : times.Pairwise (· ≤ ·)) (hcounted : ∀ v, w = some v → 1 ≤ v.count) :
    passed length start (countLog limit length w times) ≤ 2 * limit - 1 := by
  induction times generalizing w with
  | nil => exact Nat.zero_le _
  | cons now times ih =>
    obtain ⟨hfirst, hrest⟩ := List.pairwise_cons.mp hordered
    by_cases hearly : now < start
    · -- A call before the interval does not count, whatever it leaves.
      rw [countLog, passed_cons, if_neg (by rintro ⟨_, hstart, _⟩; exact absurd hearly (Int.not_lt.mpr hstart))]
      refine ih hrest ?_
      intro u hu
      rcases count_cases limit length w now with ⟨hcount, _⟩ | ⟨v, hv, _, ⟨_, hcount⟩ | ⟨_, hcount⟩⟩
      · rw [hcount] at hu
        cases hu
        exact Nat.le_refl 1
      · rw [hcount] at hu
        cases hu
        exact hcounted _ hv
      · rw [hcount] at hu
        cases hu
        exact Nat.succ_le_succ (Nat.zero_le _)
    · have hstart : ∀ later ∈ now :: times, start ≤ later := by
        intro later hmem
        rcases List.mem_cons.mp hmem with rfl | hmem
        · exact Int.not_lt.mp hearly
        · exact Int.le_trans (Int.not_lt.mp hearly) (hfirst later hmem)
      cases w with
      | none =>
        have hbound := @passed_new_window limit length now start times hlimit hordered (hstart now List.mem_cons_self)
        rw [countLog]
        exact Nat.le_trans hbound (by omega)
      | some v =>
        have hbound := @passed_across limit length start (now :: times) v hlimit hordered hstart
        have hone := hcounted v rfl
        omega

end bursts

variable [DecidableEq K]

theorem tableAllow_window (t : K → Option Window) (key other : K) :
    (tableAllow limit length t key now).2 other =
      if other = key then (count limit length (live length now (t key)) now).2 else live length now (t other) := by
  simp only [tableAllow, Function.update_apply]

/-- What a table tells a key is what a counter of its own tells it: nobody else's calls matter. The windows of the table
    and of the counter may differ, but only by one that is over. -/
theorem tableLog_key (key : K) {last : Int} {calls : List (K × Int)}
    (hagree : live length last (t key) = live length last w) (hordered : calls.Pairwise (·.2 ≤ ·.2))
    (hlast : ∀ call ∈ calls, last ≤ call.2) :
    ((log (tableAllow limit length) t calls).filter (·.1 = key)).map Prod.snd =
      countLog limit length w ((calls.filter (·.1 = key)).map Prod.snd) := by
  induction calls generalizing t w last with
  | nil => rfl
  | cons call calls ih =>
    obtain ⟨other, now⟩ := call
    obtain ⟨hfirst, hrest⟩ := List.pairwise_cons.mp hordered
    have hnow : last ≤ now := hlast _ List.mem_cons_self
    have hstill : live length now (t key) = live length now w := by
      rw [← live_live hnow, hagree, live_live hnow]
    rw [log]
    by_cases hsame : other = key
    · subst hsame
      have hcount : count limit length (live length now (t other)) now = count limit length w now := by
        rw [hstill, count_live]
      rw [List.filter_cons_of_pos (by simp), List.filter_cons_of_pos (by simp), List.map_cons, List.map_cons, countLog,
        ← hcount]
      refine congrArg _ (ih ?_ hrest hfirst)
      rw [tableAllow_window, if_pos rfl]
    · rw [List.filter_cons_of_neg (by simpa using hsame), List.filter_cons_of_neg (by simpa using hsame)]
      refine ih ?_ hrest hfirst
      rw [tableAllow_window, if_neg (Ne.symm hsame), live_live (Int.le_refl now), hstill]

/-- After a call the table holds no window that is over. -/
theorem fresh_tableAllow (hlength : 0 < length) {key other : K}
    (hwindow : (tableAllow limit length t key now).2 other = some v) : now - v.started < length := by
  have hcounted : ∀ {w : Option Window}, (count limit length w now).2 = some v → now - v.started < length := by
    intro w hcount
    rw [count] at hcount
    split at hcount
    · cases hcount
      simpa using hlength
    · next hlive =>
      split at hcount
      · cases hcount
        exact (live_eq_some.mp hlive).2
      · cases hcount
        exact (live_eq_some.mp hlive).2
  rw [tableAllow_window] at hwindow
  split at hwindow
  · exact hcounted hwindow
  · exact (live_eq_some.mp hwindow).2

namespace Implements

variable {allow : S → K → Int → Decision × S} {view : S → K → Option Window} {Good : Int → Prop}
  {Fits : S → Int → Prop} {s : S} {last : Int} {calls : List (K × Int)}

section

variable (h : Implements limit length allow view Good Fits)

include h

/-- Over a whole run, a limiter tells every call what the table tells it. -/
theorem log_eq (hfits : Fits s last) (hordered : calls.Pairwise (·.2 ≤ ·.2))
    (hlast : ∀ call ∈ calls, last ≤ call.2 ∧ Good call.2) :
    log allow s calls = log (tableAllow limit length) (view s) calls := by
  induction calls generalizing s last with
  | nil => rfl
  | cons call calls ih =>
    obtain ⟨key, now⟩ := call
    obtain ⟨hfirst, hrest⟩ := List.pairwise_cons.mp hordered
    obtain ⟨hnow, hgood⟩ := hlast _ List.mem_cons_self
    rw [log, log, h.decision hfits hnow hgood, ← h.windows hfits hnow hgood]
    refine congrArg _ (ih (h.fits hfits hnow hgood) hrest fun call hmem => ⟨hfirst call hmem, ?_⟩)
    exact (hlast call (List.mem_cons_of_mem _ hmem)).2

theorem fits_after (hfits : Fits s last) (hordered : calls.Pairwise (·.2 ≤ ·.2))
    (hlast : ∀ call ∈ calls, last ≤ call.2 ∧ Good call.2) (hlater : last ≤ later)
    (hall : ∀ call ∈ calls, call.2 ≤ later) : ∃ reached ≤ later, Fits (after allow s calls) reached := by
  induction calls generalizing s last with
  | nil => exact ⟨last, hlater, hfits⟩
  | cons call calls ih =>
    obtain ⟨hfirst, hrest⟩ := List.pairwise_cons.mp hordered
    obtain ⟨hnow, hgood⟩ := hlast _ List.mem_cons_self
    refine ih (h.fits hfits hnow hgood) hrest (fun call hmem => ⟨hfirst call hmem, ?_⟩) (hall _ List.mem_cons_self)
      fun call hmem => hall call (List.mem_cons_of_mem _ hmem)
    exact (hlast call (List.mem_cons_of_mem _ hmem)).2

/-- The decisions for a key are those of a counter that is fed with its calls alone. -/
theorem log_key (hfits : Fits s last) (hempty : ∀ key, view s key = none) (hordered : calls.Pairwise (·.2 ≤ ·.2))
    (hlast : ∀ call ∈ calls, last ≤ call.2 ∧ Good call.2) (key : K) :
    ((log allow s calls).filter (·.1 = key)).map Prod.snd =
      countLog limit length none ((calls.filter (·.1 = key)).map Prod.snd) := by
  rw [h.log_eq hfits hordered hlast]
  exact tableLog_key key (congrArg (live length last) (hempty key)) hordered fun call hmem => (hlast call hmem).1

/-- After each call of a run, no window is held that is over. -/
theorem fresh (hlength : 0 < length) (hfits : Fits s last) {key other : K} {v : Window}
    (hordered : (calls ++ [(key, now)]).Pairwise (·.2 ≤ ·.2))
    (hlast : ∀ call ∈ calls ++ [(key, now)], last ≤ call.2 ∧ Good call.2)
    (hwindow : view (after allow s (calls ++ [(key, now)])) other = some v) : now - v.started < length := by
  obtain ⟨hbefore, _, hbelow⟩ := List.pairwise_append.mp hordered
  have hnow := hlast (key, now) (List.mem_append_right _ List.mem_cons_self)
  obtain ⟨reached, hreached, hfits⟩ := h.fits_after hfits hbefore
    (fun call hmem => hlast call (List.mem_append_left _ hmem)) hnow.1
    (fun call hmem => hbelow call hmem _ List.mem_cons_self)
  rw [after_concat, h.windows hfits hreached hnow.2] at hwindow
  exact fresh_tableAllow hlength hwindow

end

end Implements

end ratelimit
