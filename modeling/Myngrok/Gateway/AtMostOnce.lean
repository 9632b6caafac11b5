import Myngrok.Gateway.Tokens

open golang transition

namespace myngrok.gateway

variable {Thread : Type} {s next : Calls Thread} {events : List (CallEvent Thread)} {e : CallEvent Thread}

/-- The right to send on a channel is a token: one holder at most, used once, and gone after use. -/
structure Calls.Tokens (events : List (CallEvent Thread)) (s : Calls Thread) : Prop where
  exclusive : ∀ {ch holder holder'}, s.Holds ch holder → s.Holds ch holder' → holder = holder'
  unsent : ∀ {ch holder}, s.Holds ch holder → sends ch events = []
  nodup : ∀ {t cancelled}, s.threads t = .removing cancelled → cancelled.Nodup
  made_held : ∀ {ch holder}, s.Holds ch holder → ch < s.made
  made_sent : ∀ {ch}, sends ch events ≠ [] → ch < s.made
  once : ∀ ch, (sends ch events).length ≤ 1
  buffer : ∀ ch, sends ch events = receives ch events ++ s.buffers ch

theorem Calls.Tokens.nodup_cancelled (htokens : s.Tokens events) (sessionID : GoString) {order : List GoString}
    (horder : order.Perm s.manager.pending.keys) : (s.manager.removeLocked sessionID order).2.Nodup := by
  rw [SessionManager.removeLocked_cancelled s.manager sessionID horder]
  apply List.Nodup.filterMap _ (horder.nodup_iff.mpr s.manager.pending.keys_nodup)
  intro id id' ch hid hid'
  have hentry : ∀ key, (ch ∈ (AList.lookup key s.manager.pending).bind fun entry =>
      if entry.sessionID = sessionID then some entry.response else none) → s.Holds ch (.entry key) := by
    intro key hkey
    obtain ⟨entry, hlookup, hsome⟩ := Option.bind_eq_some_iff.mp hkey
    split at hsome <;> cases hsome
    exact ⟨entry.sessionID, hlookup⟩
  have heq := htokens.exclusive (hentry id hid) (hentry id' hid')
  cases heq
  rfl

/-- A send never blocks: whoever may still send on a channel finds it empty. -/
theorem Calls.Tokens.room (htokens : s.Tokens events) {ch : Chan} {holder : Holder Thread}
    (hholds : s.Holds ch holder) : s.buffers ch = [] := by
  have hbuffer := htokens.buffer ch
  rw [htokens.unsent hholds] at hbuffer
  exact (List.append_eq_nil_iff.mp hbuffer.symm).2

variable [DecidableEq Thread]

/-- Only `RegisterRequest` makes channels. -/
theorem Calls.step_made (h : s.step e = some next) : s.made ≤ next.made := by
  cases Calls.step_cases h with
  | registerRequest => exact Nat.le_succ _
  | _ => exact Nat.le_refl _

/-- A `Remove` in progress has the list that its critical section collected, or the rest of the list it had before. -/
theorem Calls.step_removing (h : s.step e = some next) {t : Thread} {cancelled : List Chan}
    (hnext : next.threads t = .removing cancelled) :
    (∃ earlier, s.threads t = .removing (earlier ++ cancelled)) ∨
      ∃ sessionID order, e = .removeLocked t sessionID order ∧ order.Perm s.manager.pending.keys ∧
        cancelled = (s.manager.removeLocked sessionID order).2 := by
  cases Calls.step_cases h with
  | @removeLocked u sessionID order hidle horder =>
    rw [Calls.setThread_threads] at hnext
    split at hnext
    · rename_i htu
      cases hnext
      cases htu
      exact .inr ⟨sessionID, order, rfl, horder, rfl⟩
    · exact .inl ⟨[], hnext⟩
  | @removeSend u ch rest hthread hroom =>
    rw [Calls.setThread_threads] at hnext
    split at hnext
    · rename_i htu
      cases hnext
      cases htu
      exact .inl ⟨[ch], hthread⟩
    · exact .inl ⟨[], hnext⟩
  | deliverFound | deliverMissing | deliverSend | deliverReturn | removeReturn =>
    rw [Calls.setThread_threads] at hnext
    split at hnext
    · cases hnext
    · exact .inl ⟨[], hnext⟩
  | registerRequest | cancelRequest | receive | register => exact .inl ⟨[], hnext⟩

theorem Calls.Tokens.step (htokens : s.Tokens events) (h : s.step e = some next) : next.Tokens (events ++ [e]) := by
  have hmade := Calls.step_made h
  -- After a send nobody holds the channel any more.
  have hspent : ∀ {ch response holder}, e.sent ch = some response → ¬ next.Holds ch holder := by
    intro ch response holder hsent hholds
    obtain ⟨t, hheld, _, hafter⟩ := Calls.step_sent h hsent
    have hold : s.Holds ch holder := by
      obtain hold | ⟨_, _, _, he, _⟩ | ⟨u, id, _, hacquires, _⟩ := Calls.step_holds h hholds
      · exact hold
      · subst he
        cases hsent
      · cases e <;> cases hacquires <;> cases hsent
    cases htokens.exclusive hold hheld
    obtain ⟨_, hreturning⟩ | ⟨_, rest, hbefore, hremoving⟩ := hafter
    · rw [Calls.Holds, hreturning] at hholds
      exact hholds
    · rw [Calls.Holds, hremoving] at hholds
      exact (List.nodup_cons.mp (htokens.nodup hbefore)).1 hholds
  have hunsent : ∀ {ch holder}, next.Holds ch holder → sends ch (events ++ [e]) = [] := by
    intro ch holder hholds
    have hsilent : e.sent ch = none := by
      cases hsent : e.sent ch with
      | none => rfl
      | some response => exact absurd hholds (hspent hsent)
    rw [sends_concat, hsilent]
    obtain hold | ⟨hfresh, _⟩ | ⟨_, id, _, _, hentry, _⟩ := Calls.step_holds h hholds
    · simp [htokens.unsent hold]
    · by_contra hsome
      exact Nat.ne_of_lt (htokens.made_sent (by simpa using hsome)) hfresh
    · simp [htokens.unsent hentry]
  refine ⟨?_, hunsent, ?_, ?_, ?_, ?_, ?_⟩
  · intro ch holder holder' hholds hholds'
    obtain hold | ⟨hfresh, sessionID, id, he, hid⟩ | ⟨t, id, ht, hacq, hentry, hgone⟩ := Calls.step_holds h hholds <;>
      obtain hold' | ⟨hfresh', sessionID', id', he', hid'⟩ | ⟨t', id', ht', hacq', hentry', hgone'⟩ :=
        Calls.step_holds h hholds'
    · exact htokens.exclusive hold hold'
    · exact absurd hfresh' (Nat.ne_of_lt (htokens.made_held hold))
    · cases htokens.exclusive hold hentry'
      exact absurd hholds hgone'
    · exact absurd hfresh (Nat.ne_of_lt (htokens.made_held hold'))
    · rw [he] at he'
      cases he'
      rw [hid, hid']
    · exact absurd hfresh (Nat.ne_of_lt (htokens.made_held hentry'))
    · cases htokens.exclusive hold' hentry
      exact absurd hholds' hgone
    · exact absurd hfresh' (Nat.ne_of_lt (htokens.made_held hentry))
    · have htt : t = t' := by
        cases e with
        | deliverLocked u other response =>
          obtain ⟨rfl, _⟩ := hacq
          obtain ⟨rfl, _⟩ := hacq'
          rfl
        | removeLocked u sessionID order =>
          cases hacq
          cases hacq'
          rfl
        | _ => cases hacq
      rw [ht, ht', htt]
  · intro t cancelled hnext
    obtain ⟨earlier, hold⟩ | ⟨sessionID, order, _, horder, rfl⟩ := Calls.step_removing h hnext
    · exact (List.nodup_append.mp (htokens.nodup hold)).2.1
    · exact htokens.nodup_cancelled sessionID horder
  · intro ch holder hholds
    obtain hold | ⟨hfresh, sessionID, id, he, _⟩ | ⟨_, id, _, _, hentry, _⟩ := Calls.step_holds h hholds
    · exact Nat.lt_of_lt_of_le (htokens.made_held hold) hmade
    · rw [hfresh]
      subst he
      simp only [Calls.step, if_pos hfresh] at h
      cases h
      exact Nat.lt_succ_self _
    · exact Nat.lt_of_lt_of_le (htokens.made_held hentry) hmade
  · intro ch hsome
    rw [sends_concat] at hsome
    cases hsent : e.sent ch with
    | none => exact Nat.lt_of_lt_of_le (htokens.made_sent (by simpa [hsent] using hsome)) hmade
    | some response =>
      obtain ⟨t, hheld, _⟩ := Calls.step_sent h hsent
      exact Nat.lt_of_lt_of_le (htokens.made_held hheld) hmade
  · intro ch
    rw [sends_concat]
    cases hsent : e.sent ch with
    | none => simpa [hsent] using htokens.once ch
    | some response =>
      obtain ⟨t, hheld, _⟩ := Calls.step_sent h hsent
      simp [htokens.unsent hheld]
  · intro ch
    rw [sends_concat, receives_concat, htokens.buffer ch, List.append_assoc, List.append_assoc,
      Calls.step_buffers h ch]

theorem Calls.tokens (h : run Calls.step Calls.start events = some s) : s.Tokens events := by
  apply run_induction (P := fun events s => Calls.Tokens events s) _ _ h
  · have hnone : ∀ {ch : Chan} {holder : Holder Thread}, ¬ (Calls.start : Calls Thread).Holds ch holder := by
      intro ch holder hholds
      cases holder with
      | entry id =>
        obtain ⟨_, hlookup⟩ := hholds
        cases hlookup
      | call t => cases hholds
    exact ⟨fun h => absurd h hnone, fun _ => rfl, (by intro t cancelled h; cases h), fun h => absurd h hnone,
      fun h => absurd rfl h, fun _ => Nat.zero_le _, fun _ => rfl⟩
  · intro events state e next _ htokens hstep
    exact htokens.step hstep

end myngrok.gateway
