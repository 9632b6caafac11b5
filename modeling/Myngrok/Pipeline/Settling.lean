import Myngrok.Pipeline.Serving

open golang Result websocket streams myngrok.protocol myngrok.gateway
open myngrok.gatewayclient hiding BinaryFrame responseBodyChunk requestBodyChunk parseBinaryFrame

namespace myngrok.pipeline

variable {n : Nat} {dec : Decoder} {localAddress : GoString} {capacity : Nat} {sessionID : GoString}
  {next s : Responding n} {e : RespondingEvent n}

theorem length_delivered_le {responses next : Responses} {item : ResponseItem} {effects : List Effect}
    (hserves : Serves responses item next effects) : (effects.filterMap Effect.delivery).length ≤ 1 := by
  cases hserves with
  | start | chunk => exact Nat.zero_le _
  | close => exact Nat.le_refl _
  | skip hsilent =>
    rw [deliveries_eq_nil hsilent]
    exact Nat.zero_le _

/-- A message makes the session loop deliver at most one response. -/
theorem Responding.step_delivered (hstep : s.step dec localAddress capacity e = some next) :
    ∃ more, next.delivered = s.delivered ++ more ∧ more.length ≤ 1 := by
  cases step_cases hstep with
  | inbound _ _ hserve => exact ⟨_, rfl, length_delivered_le (serveInbound_continued hserve)⟩
  | _ => exact ⟨[], (List.append_nil _).symm, Nat.zero_le _⟩

/-- What an open session has still to do; a closed one does nothing more. -/
def Responding.left (s : Responding n) : Nat := 4 * s.weight + if s.responses.isSome then 1 else 0

theorem Responding.left_lt (hopen : s.responses.isSome) (hstep : s.step dec localAddress capacity e = some next)
    (hold : e.arrives = false) : next.left + 3 * next.delivered.length < s.left + 3 * s.delivered.length := by
  by_cases hnext : next.responses.isSome
  · have hlt := weight_lt hstep hold hnext
    obtain ⟨more, hdelivered, hone⟩ := step_delivered hstep
    rw [left, left, if_pos hopen, if_pos hnext, hdelivered, List.length_append]
    omega
  · rw [left, left, if_pos hopen, if_neg hnext]
    cases step_cases hstep with
    | readError =>
      simp only [weight]
      omega
    | closed _ hqueue =>
      simp only [weight, hqueue, List.length_cons]
      omega
    | inbound => exact absurd rfl hnext
    | _ => exact absurd hopen hnext

/-- What a call has still to do. -/
def callLeft : CallState → Nat
  | .idle => 0
  | .returning _ => 1
  | .delivering _ _ => 2
  | .removing cancelled => cancelled.length + 1

namespace Serving

variable {s next : Serving n} {callEvents : List (CallEvent GoString)}

/-- What the agent and the session loop have still to do. -/
def left (sessionID : GoString) (s : Serving n) : Nat :=
  s.way.left + 3 * (s.way.delivered.length - s.called) + callLeft (s.calls.threads sessionID)

/-- They have nothing to do: the loop has made its calls, and it has ended or there is nothing for it to take. -/
structure Settled (sessionID : GoString) (s : Serving n) : Prop where
  idle : s.calls.threads sessionID = .idle
  called : s.called = s.way.delivered.length
  way : s.way.responses = none ∨ s.way.Idle

/-- A call of the session's goroutine can go on: the channels it sends on have room. -/
theorem call_progress (htokens : s.calls.Tokens callEvents) (hbusy : s.calls.threads sessionID ≠ .idle) :
    ∃ e next, e.Internal sessionID ∧ s.step dec localAddress capacity sessionID e = some next ∧
      next.left sessionID < s.left sessionID := by
  have hroom : ∀ {ch}, (s.calls.threads sessionID).Holds ch → (s.calls.buffers ch).length < Calls.responseCapacity := by
    intro ch hholds
    have hcall : s.calls.Holds ch (.call sessionID) := hholds
    rw [htokens.room hcall]
    exact Nat.one_pos
  suffices hcall : ∃ e calls, (ServingEvent.call e : ServingEvent n).Internal sessionID ∧ s.Permits sessionID e ∧
      s.make sessionID calls e = { s with calls } ∧ s.calls.step e = some calls ∧
      callLeft (calls.threads sessionID) < callLeft (s.calls.threads sessionID) by
    obtain ⟨e, calls, hinternal, hpermits, hmake, hcalls, hlt⟩ := hcall
    refine ⟨.call e, s.make sessionID calls e, hinternal, step_eq_some.mpr (.call hpermits hcalls), ?_⟩
    rw [hmake]
    exact Nat.add_lt_add_left hlt _
  cases hthread : s.calls.threads sessionID with
  | idle => exact absurd hthread hbusy
  | delivering ch response =>
    refine ⟨.deliverSend sessionID ch response, _, rfl, trivial, rfl,
      if_pos ⟨hthread, hroom (by rw [hthread]; rfl)⟩, ?_⟩
    rw [Calls.setThread_threads, if_pos rfl]
    exact Nat.lt_succ_self _
  | returning result =>
    refine ⟨.deliverReturn sessionID result, _, rfl, trivial, rfl, if_pos hthread, ?_⟩
    rw [Calls.setThread_threads, if_pos rfl]
    exact Nat.one_pos
  | removing cancelled =>
    cases cancelled with
    | nil =>
      refine ⟨.removeReturn sessionID, _, rfl, trivial, rfl, if_pos hthread, ?_⟩
      rw [Calls.setThread_threads, if_pos rfl]
      exact Nat.one_pos
    | cons ch rest =>
      have hstep : s.calls.step (.removeSend sessionID ch) = some
          ((s.calls.setBuffer ch (s.calls.buffers ch ++ [disconnected])).setThread sessionID (.removing rest)) := by
        simp only [Calls.step, hthread]
        exact if_pos ⟨trivial, hroom (by rw [hthread]; exact List.mem_cons_self)⟩
      refine ⟨.removeSend sessionID ch, _, rfl, trivial, rfl, hstep, ?_⟩
      rw [Calls.setThread_threads, if_pos rfl]
      exact Nat.lt_succ_self _

/-- The session loop can make its next call of `DeliverResponse`. -/
theorem deliver_progress (hidle : s.calls.threads sessionID = .idle) (hcalled : s.called < s.way.delivered.length) :
    ∃ e next, e.Internal sessionID ∧ s.step dec localAddress capacity sessionID e = some next ∧
      next.left sessionID < s.left sessionID := by
  obtain ⟨⟨id, response⟩, hnext⟩ : ∃ d, s.way.delivered[s.called]? = some d :=
    ⟨_, List.getElem?_eq_getElem hcalled⟩
  have hcall : ∃ calls, s.calls.step (.deliverLocked sessionID id response) = some calls ∧
      callLeft (calls.threads sessionID) ≤ 2 := by
    simp only [Calls.step, if_pos hidle]
    split
    · refine ⟨_, rfl, ?_⟩
      rw [Calls.setThread_threads, if_pos rfl]
      exact Nat.le_refl _
    · refine ⟨_, rfl, ?_⟩
      rw [Calls.setThread_threads, if_pos rfl]
      exact Nat.le_succ _
  obtain ⟨calls, hcalls, hleft⟩ := hcall
  refine ⟨.call (.deliverLocked sessionID id response), _, rfl, step_eq_some.mpr (.call (fun _ => hnext) hcalls), ?_⟩
  simp only [make, left, if_true, hidle, callLeft] at hleft ⊢
  omega

/-- As long as something is left to do, the agent or the session loop can do it. -/
theorem progress (hcapacity : 0 < capacity) (htokens : s.calls.Tokens callEvents)
    (hmade : s.called ≤ s.way.delivered.length) :
    s.Settled sessionID ∨ ∃ e next, e.Internal sessionID ∧
      s.step dec localAddress capacity sessionID e = some next ∧ next.left sessionID < s.left sessionID := by
  by_cases hidle : s.calls.threads sessionID = .idle
  · obtain hcalled | hcalled := Nat.eq_or_lt_of_le hmade
    · cases hopen : s.way.responses with
      | none => exact .inl ⟨hidle, hcalled, .inl hopen⟩
      | some responses =>
        by_cases hstuck : ∀ e, e.arrives = false → s.way.step dec localAddress capacity e = none
        · exact .inl ⟨hidle, hcalled, .inr (Responding.idle_of_stuck hcapacity hopen hstuck)⟩
        · right
          simp only [not_forall] at hstuck
          obtain ⟨e, hold, hsome⟩ := hstuck
          obtain ⟨way, hway⟩ := Option.ne_none_iff_exists'.mp hsome
          have hready : s.Ready sessionID e := by
            cases e with
            | inbound => exact ⟨hcalled, hidle⟩
            | take => cases hold
            | _ => trivial
          refine ⟨.respond e, _, hold, step_eq_some.mpr (.respond hready hway), ?_⟩
          have hlt := Responding.left_lt (Option.isSome_of_eq_some hopen) hway hold
          obtain ⟨more, hdelivered, _⟩ := Responding.step_delivered hway
          rw [hdelivered, List.length_append] at hlt
          simp only [left, hdelivered, List.length_append]
          omega
    · exact .inr (deliver_progress hidle hcalled)
  · exact .inr (call_progress htokens hidle)

end Serving

end myngrok.pipeline
