import Myngrok.Pipeline.Emission

open golang Result websocket streams transition myngrok.protocol myngrok.gateway
open myngrok.gatewayclient hiding BinaryFrame responseBodyChunk requestBodyChunk parseBinaryFrame

namespace myngrok.pipeline

variable {n : Nat} {dec : Decoder} {localAddress : GoString} {capacity : Nat} {effects : List Effect}
  {events : List (RespondingEvent n)} {rest : List Message} {s : Responding n}

/-- What is assumed of the requests of a run. -/
structure Assigned (dec : Decoder) (localAddress : GoString) (jobs : List Job) : Prop where
  ids : (jobs.map (·.request.id)).Nodup
  sendable : ∀ job ∈ jobs, job.Sendable dec localAddress

theorem Assigned.attributed {jobs : List Job} (h : Assigned dec localAddress jobs) :
    Attributed dec localAddress jobs := ⟨h.ids, fun job hmem => (h.sendable job hmem).heard⟩

theorem Assigned.left {jobs more : List Job} (h : Assigned dec localAddress (jobs ++ more)) :
    Assigned dec localAddress jobs :=
  ⟨h.attributed.left.ids, fun job hmem => h.sendable job (List.mem_append_left _ hmem)⟩

/-- The calls of `DeliverResponse` for one request. -/
def deliveries (id : GoString) (delivered : List (GoString × Response)) : List (GoString × Response) :=
  delivered.filter fun d => d.1 = id

theorem serveInbound_pong (hpong : dec.ReadsPong) (answers : Answers) (responses : Responses) :
    serveInbound dec answers responses pongMessage = ok (.continued responses [.touch]) := by
  obtain ⟨raw, hmessage⟩ := hpong
  simp only [serveInbound, pongMessage, Envelope.message] at hmessage ⊢
  rw [hmessage]
  rfl

theorem deliveries_eq_nil (hsilent : ∀ id response, Effect.deliver id response ∉ effects) :
    effects.filterMap Effect.delivery = [] := by
  rw [List.filterMap_eq_nil_iff]
  intro effect hmem
  cases effect with
  | deliver id response => exact absurd hmem (hsilent id response)
  | _ => rfl

/-- What is delivered is within the limit, since what is collected is. -/
theorem delivered_within {items : List ResponseItem} {responses next : Responses} {item : ResponseItem}
    (hassembled : Assembled items responses) (hserves : Serves responses item next effects) :
    ∀ d ∈ effects.filterMap Effect.delivery, d.2.body.length ≤ maxTunnelResponseBodyBytes := by
  cases hserves with
  | start | chunk =>
    intro d hmem
    cases hmem
  | close hlookup _ =>
    intro d hmem
    rw [List.mem_singleton.mp hmem]
    exact (hassembled.bounded _ _ hlookup).limit
  | skip hsilent =>
    intro d hmem
    rw [deliveries_eq_nil hsilent] at hmem
    cases hmem

/-- The gateway's side, after the session loop has taken `handled`: it is still open, and it has delivered the responses
    of which it has taken every message. -/
structure Receipt (dec : Decoder) (localAddress : GoString) (jobs : List Job) (handled : List Message)
    (responses : Responses) (delivered : List (GoString × Response)) : Prop where
  assembled : Assembled (handled.map (responseItem dec)) responses
  whole : ∀ job ∈ jobs, deliveries job.request.id delivered =
    if ofRequest dec job.request.id handled = job.messages localAddress then
      [(job.request.id, jobResponse (job.outcome localAddress))]
    else []
  own : ∀ d ∈ delivered, ∃ job ∈ jobs, job.request.id = d.1

namespace Receipt

variable {jobs : List Job} {handled rest : List Message} {responses next : Responses}
  {delivered : List (GoString × Response)} {job : Job} {answers : Answers} {effects : List Effect}

theorem start : Receipt dec localAddress [] [] ∅ [] := by
  refine ⟨assembled_nil, ?_, ?_⟩
  · intro job hmem
    cases hmem
  · intro d hmem
    cases hmem

theorem take (h : Receipt dec localAddress jobs handled responses delivered) (haddress : localAddress ≠ [])
    (hjob : job.Heard dec localAddress) (hfresh : ∀ other ∈ jobs, other.request.id ≠ job.request.id)
    (hnone : ofRequest dec job.request.id handled = []) :
    Receipt dec localAddress (jobs ++ [job]) handled responses delivered := by
  refine ⟨h.assembled, ?_, ?_⟩
  · intro other hmem
    rw [List.mem_append, List.mem_singleton] at hmem
    obtain hmem | rfl := hmem
    · exact h.whole other hmem
    · rw [hnone, Job.messages_eq haddress hjob.id, jobMessages_eq, if_neg (List.cons_ne_nil _ _).symm]
      refine List.filter_eq_nil_iff.mpr ?_
      intro d hd hid
      obtain ⟨job', hjob', heq⟩ := h.own d hd
      exact hfresh job' hjob' (heq.trans (of_decide_eq_true hid))
  · intro d hd
    obtain ⟨other, hmem, hid⟩ := h.own d hd
    exact ⟨other, List.mem_append_left _ hmem, hid⟩

/-- The session loop has taken a pong. -/
theorem pong (h : Receipt dec localAddress jobs handled responses delivered) (hpong : dec.ReadsPong)
    (hserve : serveInbound dec answers responses pongMessage = ok (.continued next effects)) :
    Receipt dec localAddress jobs (handled ++ [pongMessage]) next
      (delivered ++ effects.filterMap Effect.delivery) := by
  have hitem := responseItem_pong hpong
  have hserves := serveInbound_continued hserve
  have hassembled := h.assembled.step hserves
  rw [← List.map_singleton, ← List.map_append] at hassembled
  have hsilent : effects.filterMap Effect.delivery = [] := by
    rw [hitem] at hserves
    cases hserves with
    | skip hsilent => exact deliveries_eq_nil hsilent
  have hsame : ∀ id, ofRequest dec id (handled ++ [pongMessage]) = ofRequest dec id handled := by
    intro id
    apply ofRequest_concat_other
    rw [hitem]
    exact Bool.false_ne_true
  rw [hsilent, List.append_nil]
  refine ⟨hassembled, ?_, h.own⟩
  intro job hmem
  rw [hsame]
  exact h.whole job hmem

/-- A message of a job is about its request. -/
theorem message_about (hheard : job.Heard dec localAddress) {message : Message}
    (hsplit : ofRequest dec job.request.id handled ++ message :: rest = job.messages localAddress) :
    (responseItem dec message).about job.request.id = true := by
  apply heard_about hheard
  rw [← hsplit]
  simp

theorem items_split (haddress : localAddress ≠ []) (hheard : job.Heard dec localAddress) {message : Message}
    (hsplit : ofRequest dec job.request.id handled ++ message :: rest = job.messages localAddress) :
    (ofRequest dec job.request.id handled).map (responseItem dec) ++
      responseItem dec message :: rest.map (responseItem dec) =
      jobItems job.request (job.outcome localAddress) := by
  rw [← jobMessages_items hheard.id.framable hheard.reads, ← Job.messages_eq haddress hheard.id, ← hsplit]
  simp

/-- The session loop has taken the next message of a job; the last one made it deliver the response. -/
theorem message (h : Receipt dec localAddress jobs handled responses delivered) (haddress : localAddress ≠ [])
    (hattributed : Attributed dec localAddress jobs) (hjob : job ∈ jobs) {message : Message}
    (hsplit : ofRequest dec job.request.id handled ++ message :: rest = job.messages localAddress)
    (hserve : serveInbound dec answers responses message = ok (.continued next effects)) :
    Receipt dec localAddress jobs (handled ++ [message]) next
      (delivered ++ effects.filterMap Effect.delivery) := by
  have hheard := hattributed.heard job hjob
  have habout := message_about hheard hsplit
  have hserves := serveInbound_continued hserve
  have hassembled := h.assembled.step hserves
  rw [← List.map_singleton, ← List.map_append] at hassembled
  have heffects := serves_next_effects h.assembled (about_map_responseItem dec job.request.id handled)
    (items_split haddress hheard hsplit) hserves
  subst heffects
  refine ⟨hassembled, ?_, ?_⟩
  · intro other hother
    by_cases hsame : other.request.id = job.request.id
    · -- Its stream was not complete before this message.
      have hbefore := h.whole job hjob
      rw [if_neg (by rw [← hsplit]; simp)] at hbefore
      rw [List.inj_on_of_nodup_map hattributed.ids hother hjob hsame, ofRequest_concat_own handled habout, deliveries,
        List.filter_append, ← deliveries, hbefore, ← hsplit]
      cases rest with
      | nil => simp [Effect.delivery]
      | cons following rest => simp
    · rw [ofRequest_concat_other handled fun habout' => hsame (Item.about_inj habout' habout), deliveries,
        List.filter_append, ← deliveries, h.whole other hother]
      cases rest with
      | nil => simp [Effect.delivery, Ne.symm hsame]
      | cons following rest => simp
  · intro d hmem
    rw [List.mem_append] at hmem
    obtain hmem | hmem := hmem
    · exact h.own d hmem
    · refine ⟨job, hjob, ?_⟩
      cases rest with
      | nil =>
        simp only [List.map_nil, if_pos, List.filterMap_cons, Effect.delivery, List.filterMap_nil,
          List.mem_singleton] at hmem
        rw [hmem]
      | cons following rest => simp at hmem

/-- There is room for a stream that the messages after it leave among `n`. -/
theorem assembled_len_lt {items : List ResponseItem} (h : Assembled items responses) {id : GoString}
    {payload : HTTPResponsePayload} (hbound : OpenAtMost n (items ++ [.start id payload]))
    (hnew : id ∉ responses) : responses.len < n := by
  refine hbound (id :: responses.keys) (List.nodup_cons.mpr ⟨hnew, responses.keys_nodup⟩) ?_
  intro other hmem
  rw [List.mem_cons] at hmem
  obtain rfl | hmem := hmem
  · exact ⟨payload, [], open_concat.mpr (.inl ⟨rfl, rfl⟩)⟩
  · obtain ⟨a, hlookup⟩ := (Map.mem_iff_lookup responses other).mp (AList.mem_keys.mpr hmem)
    obtain ⟨parts, hopen, _⟩ := (h.streams other a).mp hlookup
    refine ⟨a.payload, parts, (open_concat_other ?_ rfl).mpr hopen⟩
    intro hcut
    exact hnew (hcut ▸ hmem)

/-- The next message of a job is accepted when there are no more streams than the gateway allows, and the body is within
    its limit. -/
theorem admits (h : Receipt dec localAddress jobs handled responses delivered) (haddress : localAddress ≠ [])
    (hworkers : n ≤ maxPendingResponseStreams) (hsendable : job.Sendable dec localAddress) {message : Message}
    (hsplit : ofRequest dec job.request.id handled ++ message :: rest = job.messages localAddress)
    (hbound : OpenAtMost n ((handled ++ [message]).map (responseItem dec))) (answers : Answers) :
    ∃ next effects, serveInbound dec answers responses message = ok (.continued next effects) := by
  have habout := message_about hsendable.heard hsplit
  have hitems := items_split haddress hsendable.heard hsplit
  have hroom : (ofRequest dec job.request.id handled).map (responseItem dec) = [] →
      responses.len < maxPendingResponseStreams := by
    intro hnil
    obtain ⟨_, hstart, _⟩ | ⟨_, _, _, _, hsent, _⟩ | ⟨hsent, _⟩ := jobItems_split hitems
    · rw [List.map_append, List.map_singleton, hstart] at hbound
      have hnew : job.request.id ∉ responses := by
        intro hmem
        obtain ⟨a, hlookup⟩ := (Map.mem_iff_lookup _ _).mp hmem
        obtain ⟨parts, hopen, _⟩ := (h.assembled.streams _ a).mp hlookup
        exact about_ne_nil_of_open hopen (by rw [about_map_responseItem, hnil])
      have hlen := assembled_len_lt h.assembled hbound hnew
      exact Nat.lt_of_lt_of_le hlen hworkers
    · rw [hnil] at hsent
      cases hsent
    · rw [hnil] at hsent
      cases hsent
  obtain ⟨next, hserves⟩ := accepts_next h.assembled (about_map_responseItem dec job.request.id handled) hitems
    hsendable.id.1 hroom hsendable.body
  have hskip : responseItem dec message ≠ .skip := by
    intro hskip
    rw [hskip] at habout
    cases habout
  exact ⟨next, _, hserves.serveInbound hskip answers⟩

end Receipt

/-- The agent's messages are sent in the order of their stream, so that the one after those taken is the next one of its
    stream. -/
theorem Emission.next_message {workers : Fin n → Option Work}
    (h : Emission dec localAddress (jobs events) (sent events) workers)
    (hattributed : Attributed dec localAddress (jobs events)) {message : Message}
    (hsent : sent events = handled events ++ message :: rest) :
    message = pongMessage ∨ ∃ job ∈ jobs events, ∃ rest,
      ofRequest dec job.request.id (handled events) ++ message :: rest = job.messages localAddress := by
  obtain hpong | ⟨job, hjob, hmessage⟩ := h.known message (by rw [hsent]; simp)
  · exact .inl hpong
  · right
    obtain ⟨remaining, hmessages⟩ := h.exists_rest hattributed.ids hjob
    have habout := heard_about (hattributed.heard job hjob) hmessage
    refine ⟨job, hjob, ofRequest dec job.request.id rest ++ remaining, ?_⟩
    rw [← hmessages, hsent]
    simp [ofRequest, habout]

/-- What is first in `readCh` is what was sent after the messages taken. -/
theorem Responding.sent_split (hrun : run (Responding.step dec localAddress capacity) Responding.start events = some s)
    {message : Message} (hqueue : s.readCh = message :: rest) :
    ∃ rest, sent events = handled events ++ message :: rest := by
  rw [Responding.fifo hrun, Responding.stream, hqueue]
  exact ⟨_, rfl⟩

/-- The gateway's side of a run, whatever the sizes of the responses: what it has delivered, and what it has collected
    as long as it is open. -/
structure Reception (dec : Decoder) (localAddress : GoString) (events : List (RespondingEvent n))
    (s : Responding n) : Prop where
  own : ∀ d ∈ s.delivered, ∃ job ∈ jobs events, job.request.id = d.1
  within : ∀ d ∈ s.delivered, d.2.body.length ≤ maxTunnelResponseBodyBytes
  receipt : ∀ responses, s.responses = some responses →
    Receipt dec localAddress (jobs events) (handled events) responses s.delivered

theorem Reception.step {next : Responding n} {e : RespondingEvent n} (h : Reception dec localAddress events s)
    (haddress : localAddress ≠ []) (hpong : dec.ReadsPong)
    (hrun : run (Responding.step dec localAddress capacity) Responding.start events = some s)
    (hattributed : Attributed dec localAddress (jobs (events ++ [e])))
    (hstep : s.step dec localAddress capacity e = some next) : Reception dec localAddress (events ++ [e]) next := by
  rw [jobs, filterMap_concat, ← jobs] at hattributed
  have hbefore := hattributed.left
  obtain ⟨hemission, _⟩ := emission_of_run hpong hrun hbefore
  suffices hgoal : (∀ d ∈ next.delivered, ∃ job ∈ jobs events ++ e.job.toList, job.request.id = d.1) ∧
      (∀ d ∈ next.delivered, d.2.body.length ≤ maxTunnelResponseBodyBytes) ∧
      ∀ responses, next.responses = some responses → Receipt dec localAddress (jobs events ++ e.job.toList)
        (handled events ++ e.handled.toList) responses next.delivered by
    refine ⟨?_, hgoal.2.1, ?_⟩
    · rw [jobs, filterMap_concat]
      exact hgoal.1
    · rw [jobs, filterMap_concat, handled, filterMap_concat]
      exact hgoal.2.2
  cases Responding.step_cases hstep with
  | take job hidle =>
    simp only [RespondingEvent.handled, Option.toList_none, List.append_nil]
    refine ⟨?_, h.within, ?_⟩
    · intro d hmem
      obtain ⟨job', hjob', hid⟩ := h.own d hmem
      exact ⟨job', List.mem_append_left _ hjob', hid⟩
    · intro responses hresponses
      have hnone := hemission.ofRequest_unknown hpong hbefore.heard hattributed.fresh
      rw [Responding.fifo hrun, ofRequest, List.filter_append, List.append_eq_nil_iff] at hnone
      exact (h.receipt responses hresponses).take haddress (hattributed.heard job (by simp [RespondingEvent.job]))
        hattributed.fresh hnone.1
  | send | finish | pong | writerTake | write | read | place =>
    simp only [RespondingEvent.job, RespondingEvent.handled, Option.toList_none, List.append_nil]
    exact ⟨h.own, h.within, h.receipt⟩
  | readError | closed =>
    simp only [RespondingEvent.job, Option.toList_none, List.append_nil]
    refine ⟨h.own, h.within, ?_⟩
    rintro responses ⟨⟩
  | @inbound answers message _ responses after effects hresponses hqueue hserve =>
    simp only [RespondingEvent.job, RespondingEvent.handled, Option.toList_none, Option.toList_some, List.append_nil]
    have hreceipt := h.receipt responses hresponses
    have hnext : Receipt dec localAddress (jobs events) (handled events ++ [message]) after
        (s.delivered ++ effects.filterMap Effect.delivery) := by
      obtain ⟨rest, hsent⟩ := Responding.sent_split hrun hqueue
      obtain rfl | ⟨job, hjob, remaining, hsplit⟩ := hemission.next_message hbefore hsent
      · exact hreceipt.pong hpong hserve
      · exact hreceipt.message haddress hbefore hjob hsplit hserve
    refine ⟨hnext.own, ?_, ?_⟩
    · intro d hmem
      rw [List.mem_append] at hmem
      obtain hmem | hmem := hmem
      · exact h.within d hmem
      · exact delivered_within hreceipt.assembled (serveInbound_continued hserve) d hmem
    · rintro responses ⟨⟩
      exact hnext

theorem reception_of_run (haddress : localAddress ≠ []) (hpong : dec.ReadsPong)
    (hrun : run (Responding.step dec localAddress capacity) Responding.start events = some s)
    (hattributed : Attributed dec localAddress (jobs events)) : Reception dec localAddress events s := by
  refine run_induction (P := fun events s => Attributed dec localAddress (jobs events) →
    Reception dec localAddress events s) ?_ ?_ hrun hattributed
  · intro _
    refine ⟨?_, ?_, ?_⟩
    · intro d hmem
      cases hmem
    · intro d hmem
      cases hmem
    · rintro responses ⟨⟩
      exact .start
  · intro events s e next hbefore ih hstep hattributed
    have hearlier : Attributed dec localAddress (jobs events) := by
      rw [jobs, filterMap_concat] at hattributed
      exact hattributed.left
    exact (ih hearlier).step haddress hpong hbefore hattributed hstep

/-- Both sides of a run. Whatever beginning of the stream one looks at, it leaves at most `n` streams open, since it was
    the whole stream at an earlier time. -/
structure Delivery (dec : Decoder) (localAddress : GoString) (events : List (RespondingEvent n))
    (s : Responding n) : Prop where
  emission : Emission dec localAddress (jobs events) (sent events) s.workers
  bound : ∀ first, first <+: sent events → OpenAtMost n (first.map (responseItem dec))
  receipt : ∃ responses, s.responses = some responses ∧
    Receipt dec localAddress (jobs events) (handled events) responses s.delivered

namespace Delivery

variable {events : List (RespondingEvent n)} {s next : Responding n} {e : RespondingEvent n}

section

variable (h : Delivery dec localAddress events s) (haddress : localAddress ≠ [])

include h haddress

/-- Every message under way can be read. -/
theorem readable (hassigned : Assigned dec localAddress (jobs events)) {message : Message}
    (hmem : message ∈ sent events) : message.data.length ≤ gateway.websocketReadLimit := by
  obtain rfl | ⟨job, hjob, hmessage⟩ := h.emission.known message hmem
  · decide
  · have hsendable := hassigned.sendable job hjob
    rw [Job.messages_eq haddress hsendable.id] at hmessage
    exact jobMessages_readable hsendable.id hsendable.start hmessage

/-- The session loop accepts what it takes from `readCh`. -/
theorem accepts (hpong : dec.ReadsPong) (hworkers : n ≤ maxPendingResponseStreams)
    (hrun : run (Responding.step dec localAddress capacity) Responding.start events = some s)
    (hassigned : Assigned dec localAddress (jobs events)) {responses : Responses} {message : Message}
    {rest : List Message} (hresponses : s.responses = some responses) (hqueue : s.readCh = message :: rest)
    (answers : Answers) :
    ∃ next effects, serveInbound dec answers responses message = ok (.continued next effects) := by
  obtain ⟨responses', hsome, hreceipt⟩ := h.receipt
  rw [hresponses] at hsome
  cases hsome
  obtain ⟨rest, hsent⟩ := Responding.sent_split hrun hqueue
  obtain rfl | ⟨job, hjob, remaining, hsplit⟩ := h.emission.next_message hassigned.attributed hsent
  · exact ⟨responses, [.touch], serveInbound_pong hpong answers responses⟩
  · refine hreceipt.admits haddress hworkers (hassigned.sendable job hjob) hsplit (h.bound _ ?_) answers
    rw [hsent]
    exact ⟨rest, by simp⟩

/-- No step ends the session loop. -/
theorem open_step (hpong : dec.ReadsPong) (hworkers : n ≤ maxPendingResponseStreams)
    (hrun : run (Responding.step dec localAddress capacity) Responding.start events = some s)
    (hassigned : Assigned dec localAddress (jobs events)) (hstep : s.step dec localAddress capacity e = some next) :
    next.responses.isSome := by
  obtain ⟨responses, hresponses, _⟩ := h.receipt
  cases Responding.step_cases hstep with
  | take | send | finish | pong | writerTake | write | read | place => exact Option.isSome_of_eq_some hresponses
  | inbound => rfl
  | @readError message rest _ hqueue hlong =>
    have hmem : message ∈ sent events := by
      rw [Responding.fifo hrun, Responding.stream, hqueue]
      simp
    exact absurd (h.readable haddress hassigned hmem) hlong
  | closed hresponses' hqueue hserve =>
    obtain ⟨after, effects, hserve'⟩ := h.accepts haddress hpong hworkers hrun hassigned hresponses' hqueue _
    exact absurd hserve' (hserve after effects)

end

end Delivery

theorem delivery_of_run (haddress : localAddress ≠ []) (hpong : dec.ReadsPong)
    (hworkers : n ≤ maxPendingResponseStreams)
    (hrun : run (Responding.step dec localAddress capacity) Responding.start events = some s)
    (hassigned : Assigned dec localAddress (jobs events)) : Delivery dec localAddress events s := by
  have hdelivery : ∀ {events : List (RespondingEvent n)} {s : Responding n},
      run (Responding.step dec localAddress capacity) Responding.start events = some s →
      Assigned dec localAddress (jobs events) → s.responses.isSome → Delivery dec localAddress events s := by
    intro events s hrun hassigned hopen
    obtain ⟨hemission, hbound⟩ := emission_of_run hpong hrun hassigned.attributed
    obtain ⟨responses, hresponses⟩ := Option.isSome_iff_exists.mp hopen
    exact ⟨hemission, hbound, responses, hresponses,
      (reception_of_run haddress hpong hrun hassigned.attributed).receipt responses hresponses⟩
  refine hdelivery hrun hassigned ?_
  refine run_induction (P := fun events s => Assigned dec localAddress (jobs events) → s.responses.isSome)
    (fun _ => rfl) ?_ hrun hassigned
  intro events s e next hbefore ih hstep hassigned
  have hearlier : Assigned dec localAddress (jobs events) := by
    rw [jobs, filterMap_concat] at hassigned
    exact hassigned.left
  exact (hdelivery hbefore hearlier (ih hearlier)).open_step haddress hpong hworkers hbefore hearlier hstep

end myngrok.pipeline
