import Myngrok.Gateway.AtMostOnce

open golang transition

namespace myngrok.gateway

variable {Thread : Type} {t : Thread} {e : CallEvent Thread} {events : List (CallEvent Thread)} {response : Response}
  {next s : Calls Thread} {result : Bool}

/-- The actions of the goroutine `t`. -/
def CallEvent.By (t : Thread) : CallEvent Thread → Prop
  | .deliverLocked u _ _ => u = t
  | .deliverSend u _ _ => u = t
  | .deliverReturn u _ => u = t
  | .removeLocked u _ _ => u = t
  | .removeSend u _ => u = t
  | .removeReturn u => u = t
  | _ => False

/-- The first and the last action of a call of `t`. -/
def CallEvent.Delimits (t : Thread) : CallEvent Thread → Prop
  | .deliverLocked u _ _ => u = t
  | .deliverReturn u _ => u = t
  | .removeLocked u _ _ => u = t
  | .removeReturn u => u = t
  | _ => False

theorem CallEvent.Delimits.by (h : e.Delimits t) : e.By t := by
  cases e <;> first | exact h | cases h

/-- `response` reached `ch` by one of the two ways there are: a `DeliverResponse` for the ID the channel was registered
    under, or a `Remove` of the session it was registered under, while the registration was live. -/
def Completed (events : List (CallEvent Thread)) (ch : Chan) (response : Response) : Prop :=
  (∃ before t id sessionID after, events = before ++ .deliverLocked t id response :: after ∧
    Live before sessionID id ch) ∨
  (response = disconnected ∧ ∃ before t sessionID id order after,
    events = before ++ .removeLocked t sessionID order :: after ∧ Live before sessionID id ch)

theorem Completed.concat {ch : Chan} (h : Completed events ch response) (e : CallEvent Thread) :
    Completed (events ++ [e]) ch response := by
  obtain ⟨before, t, id, sessionID, after, rfl, hlive⟩ | ⟨hresponse, before, t, sessionID, id, order, after, rfl, hlive⟩ := h
  · exact .inl ⟨before, t, id, sessionID, after ++ [e], by simp, hlive⟩
  · exact .inr ⟨hresponse, before, t, sessionID, id, order, after ++ [e], by simp, hlive⟩

/-- Two ways of cutting a list at its last element with a property are one. -/
theorem cut_unique {A : Type} {P : A → Prop} {before before' middle middle' : List A} {a a' : A}
    (h : before ++ a :: middle = before' ++ a' :: middle') (ha : P a) (ha' : P a') (hmiddle : ∀ x ∈ middle, ¬ P x)
    (hmiddle' : ∀ x ∈ middle', ¬ P x) : before = before' ∧ a = a' ∧ middle = middle' := by
  induction before generalizing before' with
  | nil =>
    cases before' with
    | nil =>
      cases h
      exact ⟨rfl, rfl, rfl⟩
    | cons b before' =>
      cases h
      exact absurd ha' (hmiddle a' (by simp))
  | cons b before ih =>
    cases before' with
    | nil =>
      cases h
      exact absurd ha (hmiddle' a (by simp))
    | cons b' before' =>
      simp only [List.cons_append, List.cons.injEq] at h
      obtain ⟨rfl, h⟩ := h
      obtain ⟨rfl, hrest⟩ := ih h
      exact ⟨rfl, hrest⟩

/-- Where the calls in progress come from, and what has been sent. -/
structure Calls.Origins (events : List (CallEvent Thread)) (s : Calls Thread) : Prop where
  delivering : ∀ {t ch response}, s.threads t = .delivering ch response →
    ∃ before id sessionID middle, events = before ++ .deliverLocked t id response :: middle ∧
      Live before sessionID id ch ∧ ∀ e ∈ middle, ¬ e.Delimits t
  removing : ∀ {t cancelled}, s.threads t = .removing cancelled → ∀ ch ∈ cancelled,
    ∃ before sessionID id order middle, events = before ++ .removeLocked t sessionID order :: middle ∧
      Live before sessionID id ch
  returning : ∀ {t result}, s.threads t = .returning result →
    ∃ before id response middle, events = before ++ .deliverLocked t id response :: middle ∧
      (result = true ↔ ∃ sessionID ch, Live before sessionID id ch ∧ .deliverSend t ch response ∈ middle) ∧
      ∀ e ∈ middle, ¬ e.Delimits t
  sent : ∀ {ch response}, response ∈ sends ch events → Completed events ch response

variable [DecidableEq Thread]

/-- A goroutine moves only by its own actions. -/
theorem Calls.step_threads (h : s.step e = some next) (hby : ¬ e.By t) : next.threads t = s.threads t := by
  cases Calls.step_cases h with
  | registerRequest | cancelRequest | receive | register => rfl
  | _ => exact (Calls.setThread_threads _ _ _ _).trans (if_neg (Ne.symm hby))

theorem Calls.step_delivering (h : s.step e = some next) {ch : Chan} (hby : e.By t)
    (hnext : next.threads t = .delivering ch response) :
    ∃ id sessionID, e = .deliverLocked t id response ∧
      s.manager.pending.lookup id = some { sessionID, response := ch } := by
  cases Calls.step_cases h with
  | @deliverFound u id entry sent hidle hlookup =>
    cases hby
    rw [Calls.setThread_threads, if_pos rfl] at hnext
    cases hnext
    exact ⟨id, entry.sessionID, rfl, hlookup⟩
  | registerRequest | cancelRequest | receive | register => cases hby
  | _ =>
    cases hby
    rw [Calls.setThread_threads, if_pos rfl] at hnext
    cases hnext

/-- A `DeliverResponse` is about to return: with false straight from the lookup, with true right after its send. -/
theorem Calls.step_returning (h : s.step e = some next) (hby : e.By t) (hnext : next.threads t = .returning result) :
    (result = false ∧ ∃ id response, e = .deliverLocked t id response) ∨
      (result = true ∧ ∃ ch response, e = .deliverSend t ch response ∧ s.threads t = .delivering ch response) := by
  cases Calls.step_cases h with
  | @deliverMissing u id sent hidle hlookup =>
    cases hby
    rw [Calls.setThread_threads, if_pos rfl] at hnext
    cases hnext
    exact .inl ⟨rfl, id, sent, rfl⟩
  | @deliverSend u ch sent hthread hroom =>
    cases hby
    rw [Calls.setThread_threads, if_pos rfl] at hnext
    cases hnext
    exact .inr ⟨rfl, ch, sent, rfl, hthread⟩
  | registerRequest | cancelRequest | receive | register => cases hby
  | _ =>
    cases hby
    rw [Calls.setThread_threads, if_pos rfl] at hnext
    cases hnext

theorem Calls.Origins.step
    (hlive : ∀ sessionID id ch, s.manager.pending.lookup id = some { sessionID, response := ch } →
      Live events sessionID id ch) (horigins : s.Origins events) (h : s.step e = some next) :
    next.Origins (events ++ [e]) := by
  have hmiddle : ∀ {t : Thread} {middle : List (CallEvent Thread)}, (∀ e ∈ middle, ¬ e.Delimits t) →
      ¬ e.Delimits t → ∀ e' ∈ middle ++ [e], ¬ e'.Delimits t := by
    intro t middle hall hlast e' he'
    rcases List.mem_append.mp he' with he' | he'
    · exact hall e' he'
    · rw [List.mem_singleton] at he'
      exact he' ▸ hlast
  refine ⟨?_, ?_, ?_, ?_⟩
  · intro t ch response hnext
    by_cases hby : e.By t
    · obtain ⟨id, sessionID, rfl, hlookup⟩ := Calls.step_delivering h hby hnext
      exact ⟨events, id, sessionID, [], rfl, hlive _ _ _ hlookup, by simp⟩
    · rw [Calls.step_threads h hby] at hnext
      obtain ⟨before, id, sessionID, middle, rfl, hbefore, hall⟩ := horigins.delivering hnext
      exact ⟨before, id, sessionID, middle ++ [e], by simp, hbefore, hmiddle hall fun hd => hby hd.by⟩
  · intro t cancelled hnext ch hmem
    obtain ⟨earlier, hold⟩ | ⟨sessionID, order, rfl, horder, rfl⟩ := Calls.step_removing h hnext
    · obtain ⟨before, sessionID, id, order, middle, rfl, hbefore⟩ :=
        horigins.removing hold ch (List.mem_append_right _ hmem)
      exact ⟨before, sessionID, id, order, middle ++ [e], by simp, hbefore⟩
    · obtain ⟨id, hlookup⟩ := (SessionManager.mem_removeLocked_cancelled s.manager sessionID horder ch).mp hmem
      exact ⟨events, sessionID, id, order, [], rfl, hlive _ _ _ hlookup⟩
  · intro t result hnext
    by_cases hby : e.By t
    · obtain ⟨rfl, id, response, rfl⟩ | ⟨rfl, ch, response, rfl, hthread⟩ := Calls.step_returning h hby hnext
      · exact ⟨events, id, response, [], rfl, by simp, by simp⟩
      · obtain ⟨before, id, sessionID, middle, rfl, hbefore, hall⟩ := horigins.delivering hthread
        refine ⟨before, id, response, middle ++ [.deliverSend t ch response], by simp, ?_,
          hmiddle hall (by simp [CallEvent.Delimits])⟩
        exact ⟨fun _ => ⟨sessionID, ch, hbefore, by simp⟩, fun _ => rfl⟩
    · rw [Calls.step_threads h hby] at hnext
      obtain ⟨before, id, response, middle, rfl, hresult, hall⟩ := horigins.returning hnext
      refine ⟨before, id, response, middle ++ [e], by simp, ?_, hmiddle hall fun hd => hby hd.by⟩
      rw [hresult]
      have hother : ∀ ch, .deliverSend t ch response ∈ middle ++ [e] ↔ .deliverSend t ch response ∈ middle := by
        intro ch
        rw [List.mem_append, List.mem_singleton, or_iff_left_iff_imp]
        rintro rfl
        exact absurd rfl hby
      simp only [hother]
  · intro ch response hmem
    rw [sends_concat] at hmem
    rcases List.mem_append.mp hmem with hold | hnew
    · exact (horigins.sent hold).concat e
    · rw [Option.mem_toList] at hnew
      obtain ⟨t, _, _, ⟨hthread, _⟩ | ⟨rfl, rest, hthread, _⟩⟩ := Calls.step_sent h hnew
      · obtain ⟨before, id, sessionID, middle, rfl, hbefore, _⟩ := horigins.delivering hthread
        exact .inl ⟨before, t, id, sessionID, middle ++ [e], by simp, hbefore⟩
      · obtain ⟨before, sessionID, id, order, middle, rfl, hbefore⟩ :=
          horigins.removing hthread ch List.mem_cons_self
        exact .inr ⟨rfl, before, t, sessionID, id, order, middle ++ [e], by simp, hbefore⟩

theorem Calls.origins (h : run Calls.step Calls.start events = some s) : s.Origins events := by
  apply run_induction (P := fun events s => Calls.Origins events s) _ _ h
  · refine ⟨?_, ?_, ?_, ?_⟩
    · intro t ch response hthread
      cases hthread
    · intro t cancelled hthread
      cases hthread
    · intro t result hthread
      cases hthread
    · intro ch response hmem
      cases hmem
  · intro events state e next hrun horigins hstep
    exact horigins.step (fun sessionID id ch => (Calls.pending_iff_live hrun sessionID id ch).mp) hstep

/-- The answer of a finished `DeliverResponse` says whether a channel registered for its ID took the response. -/
theorem Calls.deliver_result {before middle after : List (CallEvent Thread)} {id : GoString}
    (h : run Calls.step Calls.start
      (before ++ .deliverLocked t id response :: (middle ++ .deliverReturn t result :: after)) = some s)
    (hcall : ∀ e ∈ middle, ¬ e.Delimits t) :
    result = true ↔ ∃ sessionID ch, Live before sessionID id ch ∧ .deliverSend t ch response ∈ middle := by
  have hsplit : before ++ .deliverLocked t id response :: (middle ++ .deliverReturn t result :: after) =
      (before ++ .deliverLocked t id response :: middle) ++ .deliverReturn t result :: after := by simp
  rw [hsplit] at h
  obtain ⟨state, hrun, hrest⟩ := exists_run_of_append h
  rw [run_cons] at hrest
  obtain ⟨next, hstep, _⟩ := Option.bind_eq_some_iff.mp hrest
  cases Calls.step_cases hstep with
  | deliverReturn hthread =>
    obtain ⟨before', id', response', middle', heq, hresult, hcall'⟩ := (Calls.origins hrun).returning hthread
    obtain ⟨rfl, he, rfl⟩ := cut_unique (P := CallEvent.Delimits t) heq rfl rfl hcall hcall'
    cases he
    exact hresult

/-- In every interleaving of the calls, each response channel is sent to at most once, so no send ever waits; what it
    receives comes from a `DeliverResponse` for its ID or from the `Remove` of its session, while its registration is
    live; and `DeliverResponse` returns true exactly when such a channel took the response. -/
theorem Calls.completes_at_most_once {events : List (CallEvent Thread)} {s : Calls Thread}
    (h : run Calls.step Calls.start events = some s) :
    (∀ ch, (sends ch events).length ≤ 1) ∧
    (∀ ch response, response ∈ sends ch events → Completed events ch response) ∧
    (∀ t ch response, s.threads t = .delivering ch response →
      (s.step (.deliverSend t ch response)).isSome) ∧
    (∀ t ch rest, s.threads t = .removing (ch :: rest) → (s.step (.removeSend t ch)).isSome) ∧
    (∀ before t id response middle result after,
      events = before ++ .deliverLocked t id response :: (middle ++ .deliverReturn t result :: after) →
      (∀ e ∈ middle, ¬ e.Delimits t) →
      (result = true ↔
        ∃ sessionID ch, Live before sessionID id ch ∧ .deliverSend t ch response ∈ middle)) := by
  have htokens := Calls.tokens h
  refine ⟨htokens.once, fun ch response => (Calls.origins h).sent, ?_, ?_, ?_⟩
  · intro t ch response hthread
    have hroom : s.buffers ch = [] := htokens.room (show s.Holds ch (.call t) by rw [Calls.Holds, hthread]; rfl)
    simp [Calls.step, hthread, hroom, Calls.responseCapacity]
  · intro t ch rest hthread
    have hroom : s.buffers ch = [] :=
      htokens.room (show s.Holds ch (.call t) by rw [Calls.Holds, hthread]; exact List.mem_cons_self)
    simp [Calls.step, hthread, hroom, Calls.responseCapacity]
  · rintro before t id response middle result after rfl hcall
    exact Calls.deliver_result h hcall

/-- A run in which a response overtakes the removal of its session, which still answers the other request. -/
def overtakingRun : List (CallEvent Bool) :=
  [.registerRequest (lit "ses_a") (lit "req_1") 0, .registerRequest (lit "ses_a") (lit "req_2") 1,
    .deliverLocked false (lit "req_1") { statusCode := 200, headers := ∅, body := [], error := [] },
    .removeLocked true (lit "ses_a") [lit "req_2"], .removeSend true 1,
    .deliverSend false 0 { statusCode := 200, headers := ∅, body := [], error := [] },
    .deliverReturn false true, .removeReturn true]

theorem Calls.completes_at_most_once_overtaking :
    ∃ s, run Calls.step Calls.start overtakingRun = some s ∧ (∀ ch, (sends ch overtakingRun).length ≤ 1) ∧
      disconnected ∈ sends 1 overtakingRun ∧ Completed overtakingRun 1 disconnected := by
  have hsome : (run Calls.step Calls.start overtakingRun).isSome = true := by decide
  obtain ⟨s, hs⟩ := Option.isSome_iff_exists.mp hsome
  have hsent : disconnected ∈ sends 1 overtakingRun := by decide
  obtain ⟨honce, hcompleted, _⟩ := Calls.completes_at_most_once hs
  exact ⟨s, hs, honce, hsent, hcompleted 1 disconnected hsent⟩

end myngrok.gateway
