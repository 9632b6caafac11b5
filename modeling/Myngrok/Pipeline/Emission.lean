import Mathlib.Data.List.Perm.Subperm
import Myngrok.Pipeline.Responding

open golang Result websocket streams transition myngrok.protocol myngrok.gateway
open myngrok.gatewayclient hiding BinaryFrame responseBodyChunk requestBodyChunk parseBinaryFrame

namespace myngrok.gatewayclient

/-- What is assumed of a job: an ID that fits in frames, a start that the gateway can read, JSON that is decoded to what
    was encoded, and a body within the limit. -/
structure Job.Sendable (dec : Decoder) (localAddress : GoString) (job : Job) : Prop where
  id : pipeline.FitsFrames job.request.id
  reads : pipeline.Reads dec job.request (job.outcome localAddress)
  start : (httpResponseStartMessage (pipeline.jobStart job.request (job.outcome localAddress))).data.length ≤
    gateway.websocketReadLimit
  body : (pipeline.jobResponse (job.outcome localAddress)).body.length ≤ maxTunnelResponseBodyBytes

/-- The gateway takes the messages of the job for what they are. -/
structure Job.Heard (dec : Decoder) (localAddress : GoString) (job : Job) : Prop where
  id : pipeline.FitsFrames job.request.id
  reads : pipeline.Reads dec job.request (job.outcome localAddress)

variable {localAddress : GoString}

theorem Job.Sendable.heard {dec : Decoder} {job : Job} (h : job.Sendable dec localAddress) :
    job.Heard dec localAddress := ⟨h.id, h.reads⟩

theorem Job.messages_eq (haddress : localAddress ≠ []) {job : Job} (hid : pipeline.FitsFrames job.request.id) :
    job.messages localAddress = jobMessages job.request (job.outcome localAddress) := by
  rw [Job.messages, sentBy_eq hid.framable, if_neg haddress, Job.outcome]

end myngrok.gatewayclient

namespace myngrok.pipeline

variable {n : Nat} {dec : Decoder} {localAddress id : GoString} {capacity : Nat} {next s : Responding n}
  {e : RespondingEvent n} {events : List (RespondingEvent n)} {message : Message}

namespace RespondingEvent

def job : RespondingEvent n → Option Job
  | .take _ job => some job
  | _ => none

/-- The message that the event puts in the outbound queue. -/
def sent : RespondingEvent n → Option Message
  | .send _ message => some message
  | .pong => some pongMessage
  | _ => none

/-- The message that the session loop takes. -/
def handled : RespondingEvent n → Option Message
  | .inbound _ message => some message
  | _ => none

end RespondingEvent

def jobs (events : List (RespondingEvent n)) : List Job := events.filterMap RespondingEvent.job
def sent (events : List (RespondingEvent n)) : List Message := events.filterMap RespondingEvent.sent
def handled (events : List (RespondingEvent n)) : List Message := events.filterMap RespondingEvent.handled

/-- From the outbound queue to the session loop nothing is lost, added or reordered. -/
theorem Responding.step_stream (h : s.step dec localAddress capacity e = some next) :
    s.stream ++ e.sent.toList = e.handled.toList ++ next.stream := by
  cases step_cases h with
  | take | finish | readError => exact List.append_nil _
  | send | pong => simp [stream, setWorker, RespondingEvent.sent, RespondingEvent.handled]
  | writerTake hwriter hqueue =>
    simp [stream, hwriter, hqueue, RespondingEvent.sent, RespondingEvent.handled]
  | write hwriter => simp [stream, hwriter, RespondingEvent.sent, RespondingEvent.handled]
  | read hreader hqueue => simp [stream, hreader, hqueue, RespondingEvent.sent, RespondingEvent.handled]
  | place hreader => simp [stream, hreader, RespondingEvent.sent, RespondingEvent.handled]
  | inbound _ hqueue | closed _ hqueue =>
    simp [stream, hqueue, RespondingEvent.sent, RespondingEvent.handled]

theorem Responding.fifo (hrun : run (Responding.step dec localAddress capacity) Responding.start events = some s) :
    sent events = handled events ++ s.stream := by
  apply run_induction (P := fun events s => sent events = handled events ++ s.stream) rfl _ hrun
  intro events s e next _ ih hstep
  rw [sent, handled, filterMap_concat, filterMap_concat, List.append_assoc, ← Responding.step_stream hstep,
    ← List.append_assoc]
  exact congrArg (· ++ e.sent.toList) ih

/-- The messages that belong to the stream of one request. -/
def ofRequest (dec : Decoder) (id : GoString) (messages : List Message) : List Message :=
  messages.filter fun message => (responseItem dec message).about id

theorem about_map_responseItem (dec : Decoder) (id : GoString) (messages : List Message) :
    about id (messages.map (responseItem dec)) = (ofRequest dec id messages).map (responseItem dec) := by
  rw [about, List.filter_map]
  rfl

theorem ofRequest_concat_own (messages : List Message) (h : (responseItem dec message).about id = true) :
    ofRequest dec id (messages ++ [message]) = ofRequest dec id messages ++ [message] := by
  simp [ofRequest, h]

theorem ofRequest_concat_other (messages : List Message) (h : ¬ (responseItem dec message).about id = true) :
    ofRequest dec id (messages ++ [message]) = ofRequest dec id messages := by
  simp [ofRequest, h]

theorem heard_about {job : Job} (h : job.Heard dec localAddress) (hmem : message ∈ job.messages localAddress) :
    (responseItem dec message).about job.request.id = true := by
  by_cases haddress : localAddress = []
  · rw [Job.messages, sentBy_eq h.id.framable, if_pos haddress] at hmem
    cases hmem
  · rw [Job.messages_eq haddress h.id] at hmem
    exact jobMessages_about h.id.framable h.reads hmem

theorem responseItem_pong (hpong : dec.ReadsPong) : responseItem dec pongMessage = .skip := by
  obtain ⟨raw, hmessage⟩ := hpong
  simp only [responseItem, pongMessage, Envelope.message] at hmessage ⊢
  rw [hmessage]
  rfl

/-- The request that a worker is busy with. -/
def busyWith (workers : Fin n → Option Work) (w : Fin n) : Option GoString :=
  (workers w).map fun work => work.job.request.id

theorem busyWith_update (workers : Fin n → Option Work) (w : Fin n) (work : Option Work) :
    busyWith (Function.update workers w work) =
      Function.update (busyWith workers) w (work.map fun work => work.job.request.id) := by
  funext w'
  by_cases hw : w' = w
  · subst hw
    rw [busyWith, Function.update_self, Function.update_self]
  · rw [busyWith, Function.update_of_ne hw, Function.update_of_ne hw, busyWith]

/-- Where the workers stand with the jobs taken so far, after `sent` went into the outbound queue: a worker has sent the
    beginning of its job, and a job that no worker holds has been sent completely. -/
structure Emission (dec : Decoder) (localAddress : GoString) (jobs : List Job) (sent : List Message)
    (workers : Fin n → Option Work) : Prop where
  working : ∀ w work, workers w = some work → work.job ∈ jobs ∧
    ofRequest dec work.job.request.id sent ++ work.rest = work.job.messages localAddress
  finished : ∀ job ∈ jobs, (∀ w, busyWith workers w ≠ some job.request.id) →
    ofRequest dec job.request.id sent = job.messages localAddress
  single : ∀ w w' id, busyWith workers w = some id → busyWith workers w' = some id → w = w'
  known : ∀ message ∈ sent, message = pongMessage ∨ ∃ job ∈ jobs, message ∈ job.messages localAddress

namespace Emission

variable {jobs : List Job} {sent : List Message} {workers : Fin n → Option Work} {id : GoString} {w : Fin n} {job : Job}

theorem start : Emission dec localAddress [] [] (fun _ : Fin n => none) := by
  refine ⟨?_, ?_, ?_, ?_⟩
  · intro w work hwork
    cases hwork
  · intro job hmem
    cases hmem
  · intro w w' id hbusy
    cases hbusy
  · intro message hmem
    cases hmem

section

variable (h : Emission dec localAddress jobs sent workers)

include h

/-- Nothing has been sent for a request that no worker took. -/
theorem ofRequest_unknown (hpong : dec.ReadsPong) (hjobs : ∀ job ∈ jobs, job.Heard dec localAddress)
    (hid : ∀ job ∈ jobs, job.request.id ≠ id) : ofRequest dec id sent = [] := by
  rw [ofRequest, List.filter_eq_nil_iff]
  intro message hmem habout
  obtain rfl | ⟨job, hjob, hmessage⟩ := h.known message hmem
  · rw [responseItem_pong hpong] at habout
    cases habout
  · exact hid job hjob (Item.about_inj (heard_about (hjobs job hjob) hmessage) habout)

/-- A worker is busy with a request that has been taken. -/
theorem busyWith_known (hbusy : busyWith workers w = some id) : ∃ job ∈ jobs, job.request.id = id := by
  obtain ⟨work, hwork, hid⟩ := Option.map_eq_some_iff.mp hbusy
  exact ⟨work.job, (h.working w work hwork).1, hid⟩

/-- What has been sent of a job is a beginning of its messages. -/
theorem exists_rest (hids : (jobs.map (·.request.id)).Nodup) (hjob : job ∈ jobs) :
    ∃ rest, ofRequest dec job.request.id sent ++ rest = job.messages localAddress := by
  by_cases hbusy : ∃ w, busyWith workers w = some job.request.id
  · obtain ⟨w, hbusy⟩ := hbusy
    obtain ⟨work, hwork, hid⟩ := Option.map_eq_some_iff.mp hbusy
    obtain ⟨hmem, hsent⟩ := h.working w work hwork
    have hsame : work.job = job := List.inj_on_of_nodup_map hids hmem hjob hid
    rw [hsame] at hsent
    exact ⟨work.rest, hsent⟩
  · rw [not_exists] at hbusy
    exact ⟨[], by rw [List.append_nil]; exact h.finished job hjob hbusy⟩

theorem take (hpong : dec.ReadsPong) (hjobs : ∀ job ∈ jobs, job.Heard dec localAddress) (hidle : workers w = none)
    (hfresh : ∀ other ∈ jobs, other.request.id ≠ job.request.id) :
    Emission dec localAddress (jobs ++ [job]) sent
      (Function.update workers w (some { job, rest := job.messages localAddress })) := by
  have hbusy := busyWith_update workers w (some { job, rest := job.messages localAddress })
  have hnew : ∀ w', busyWith workers w' ≠ some job.request.id := by
    intro w' hbusy'
    obtain ⟨other, hmem, hid⟩ := h.busyWith_known hbusy'
    exact hfresh other hmem hid
  refine ⟨?_, ?_, ?_, ?_⟩
  · intro w' work hwork
    by_cases hw : w' = w
    · subst hw
      rw [Function.update_self] at hwork
      cases hwork
      exact ⟨by simp, by simp [h.ofRequest_unknown hpong hjobs hfresh]⟩
    · rw [Function.update_of_ne hw] at hwork
      obtain ⟨hmem, hsent⟩ := h.working w' work hwork
      exact ⟨List.mem_append_left _ hmem, hsent⟩
  · intro other hmem hnot
    rw [hbusy] at hnot
    rw [List.mem_append, List.mem_singleton] at hmem
    obtain hmem | rfl := hmem
    · refine h.finished other hmem ?_
      intro w'
      by_cases hw : w' = w
      · rw [hw, busyWith, hidle]
        exact fun hnone => by cases hnone
      · have hnot' := hnot w'
        rwa [Function.update_of_ne hw] at hnot'
    · exact absurd (Function.update_self _ _ _) (hnot w)
  · intro w₁ w₂ id h₁ h₂
    rw [hbusy] at h₁ h₂
    by_cases hw₁ : w₁ = w <;> by_cases hw₂ : w₂ = w
    · rw [hw₁, hw₂]
    · rw [hw₁, Function.update_self] at h₁
      rw [Function.update_of_ne hw₂] at h₂
      cases h₁
      exact absurd h₂ (hnew w₂)
    · rw [hw₂, Function.update_self] at h₂
      rw [Function.update_of_ne hw₁] at h₁
      cases h₂
      exact absurd h₁ (hnew w₁)
    · rw [Function.update_of_ne hw₁] at h₁
      rw [Function.update_of_ne hw₂] at h₂
      exact h.single w₁ w₂ id h₁ h₂
  · intro message hmem
    obtain hpong | ⟨other, hother, hmessage⟩ := h.known message hmem
    · exact .inl hpong
    · exact .inr ⟨other, List.mem_append_left _ hother, hmessage⟩

theorem send (hjobs : ∀ job ∈ jobs, job.Heard dec localAddress) {message : Message} {rest : List Message}
    (hwork : workers w = some { job, rest := message :: rest }) :
    Emission dec localAddress jobs (sent ++ [message]) (Function.update workers w (some { job, rest })) := by
  have hbusy : busyWith workers w = some job.request.id := by rw [busyWith, hwork]; rfl
  have hsame : busyWith (Function.update workers w (some { job, rest })) = busyWith workers := by
    rw [busyWith_update, Function.update_eq_self_iff, hbusy]
    rfl
  obtain ⟨hjob, hsent⟩ := h.working w _ hwork
  have hmessage : message ∈ job.messages localAddress := by
    rw [← hsent]
    simp
  have habout := heard_about (hjobs job hjob) hmessage
  have hother : ∀ id, job.request.id ≠ id → ofRequest dec id (sent ++ [message]) = ofRequest dec id sent :=
    fun id hne => ofRequest_concat_other sent fun habout' => hne (Item.about_inj habout habout')
  refine ⟨?_, ?_, ?_, ?_⟩
  · intro w' work hwork'
    by_cases hw : w' = w
    · subst hw
      rw [Function.update_self] at hwork'
      cases hwork'
      refine ⟨hjob, ?_⟩
      rw [ofRequest_concat_own sent habout, List.append_assoc]
      exact hsent
    · rw [Function.update_of_ne hw] at hwork'
      obtain ⟨hmem, hsent'⟩ := h.working w' work hwork'
      have hbusy' : busyWith workers w' = some work.job.request.id := by rw [busyWith, hwork']; rfl
      have hne : job.request.id ≠ work.job.request.id :=
        fun heq => hw (h.single w' w _ hbusy' (hbusy.trans (congrArg some heq)))
      exact ⟨hmem, by rw [hother _ hne, hsent']⟩
  · intro other hmem hnot
    rw [hsame] at hnot
    have hne : job.request.id ≠ other.request.id := fun heq => hnot w (hbusy.trans (congrArg some heq))
    rw [hother _ hne]
    exact h.finished other hmem hnot
  · rw [hsame]
    exact h.single
  · intro other hmem
    rw [List.mem_append, List.mem_singleton] at hmem
    obtain hmem | rfl := hmem
    · exact h.known other hmem
    · exact .inr ⟨job, hjob, hmessage⟩

theorem finish (hids : (jobs.map (·.request.id)).Nodup) (hwork : workers w = some { job, rest := [] }) :
    Emission dec localAddress jobs sent (Function.update workers w none) := by
  have hbusy : busyWith workers w = some job.request.id := by rw [busyWith, hwork]; rfl
  have hupdate := busyWith_update workers w none
  obtain ⟨hjob, hsent⟩ := h.working w _ hwork
  have hold : ∀ {w' id}, busyWith (Function.update workers w none) w' = some id → busyWith workers w' = some id := by
    intro w' id hbusy'
    rw [hupdate] at hbusy'
    by_cases hw : w' = w
    · rw [hw, Function.update_self] at hbusy'
      cases hbusy'
    · rwa [Function.update_of_ne hw] at hbusy'
  refine ⟨?_, ?_, fun w₁ w₂ id h₁ h₂ => h.single w₁ w₂ id (hold h₁) (hold h₂), h.known⟩
  · intro w' work hwork'
    by_cases hw : w' = w
    · rw [hw, Function.update_self] at hwork'
      cases hwork'
    · rw [Function.update_of_ne hw] at hwork'
      exact h.working w' work hwork'
  · intro other hmem hnot
    by_cases hsame : other.request.id = job.request.id
    · rw [List.inj_on_of_nodup_map hids hmem hjob hsame, ← hsent, List.append_nil]
    · refine h.finished other hmem ?_
      intro w' hbusy'
      by_cases hw : w' = w
      · rw [hw, hbusy] at hbusy'
        exact hsame (Option.some.inj hbusy').symm
      · apply hnot w'
        rw [hupdate, Function.update_of_ne hw, hbusy']

theorem pong (hpong : dec.ReadsPong) : Emission dec localAddress jobs (sent ++ [pongMessage]) workers := by
  have hsame : ∀ id, ofRequest dec id (sent ++ [pongMessage]) = ofRequest dec id sent := by
    intro id
    apply ofRequest_concat_other
    rw [responseItem_pong hpong]
    exact Bool.false_ne_true
  refine ⟨?_, ?_, h.single, ?_⟩
  · intro w work hwork
    rw [hsame]
    exact h.working w work hwork
  · intro job hmem hnot
    rw [hsame]
    exact h.finished job hmem hnot
  · intro message hmem
    rw [List.mem_append, List.mem_singleton] at hmem
    obtain hmem | rfl := hmem
    · exact h.known message hmem
    · exact .inl rfl

/-- No more streams are open than there are workers. -/
theorem openAtMost (hpong : dec.ReadsPong) (hjobs : ∀ job ∈ jobs, job.Heard dec localAddress) :
    OpenAtMost n (sent.map (responseItem dec)) := by
  intro ids hnodup hopen
  have hbusy : ids ⊆ (List.finRange n).filterMap (busyWith workers) := by
    intro id hmem
    obtain ⟨head, parts, hopen⟩ := hopen id hmem
    rw [List.mem_filterMap]
    by_contra hnone
    simp only [List.mem_finRange, true_and, not_exists] at hnone
    -- The stream is that of a job, and no worker holds it: so it has been ended.
    by_cases hknown : ∃ job ∈ jobs, job.request.id = id
    · obtain ⟨job, hjob, rfl⟩ := hknown
      have hsent := h.finished job hjob hnone
      have habout := about_map_responseItem dec job.request.id sent
      by_cases haddress : localAddress = []
      · rw [hsent, Job.messages, sentBy_eq (hjobs job hjob).id.framable, if_pos haddress] at habout
        exact about_ne_nil_of_open hopen habout
      · rw [hsent, Job.messages_eq haddress (hjobs job hjob).id,
          jobMessages_items (hjobs job hjob).id.framable (hjobs job hjob).reads, jobItems_eq,
          ← List.cons_append] at habout
        exact not_open_of_about habout hopen
    · apply about_ne_nil_of_open hopen
      rw [about_map_responseItem, h.ofRequest_unknown hpong hjobs fun job hjob hid => hknown ⟨job, hjob, hid⟩]
      rfl
  calc ids.length ≤ ((List.finRange n).filterMap (busyWith workers)).length :=
        (List.subperm_of_subset hnodup hbusy).length_le
    _ ≤ (List.finRange n).length := List.length_filterMap_le _ _
    _ = n := List.length_finRange

end

end Emission

/-- What is assumed of the requests of a run: their IDs differ, and the gateway takes what is sent about them for what
    it is. -/
structure Attributed (dec : Decoder) (localAddress : GoString) (jobs : List Job) : Prop where
  ids : (jobs.map (·.request.id)).Nodup
  heard : ∀ job ∈ jobs, job.Heard dec localAddress

theorem Attributed.left {jobs more : List Job} (h : Attributed dec localAddress (jobs ++ more)) :
    Attributed dec localAddress jobs := by
  refine ⟨?_, fun job hmem => h.heard job (List.mem_append_left _ hmem)⟩
  have hids := h.ids
  rw [List.map_append] at hids
  exact hids.of_append_left

theorem Attributed.fresh {jobs : List Job} {job : Job} (h : Attributed dec localAddress (jobs ++ [job])) :
    ∀ other ∈ jobs, other.request.id ≠ job.request.id := by
  intro other hmem heq
  have hids := h.ids
  rw [List.map_append, List.nodup_append] at hids
  exact hids.2.2 _ (List.mem_map_of_mem hmem) _ (by simp) heq

theorem Emission.step (h : Emission dec localAddress (jobs events) (sent events) s.workers) (hpong : dec.ReadsPong)
    (hattributed : Attributed dec localAddress (jobs (events ++ [e])))
    (hstep : s.step dec localAddress capacity e = some next) :
    Emission dec localAddress (jobs (events ++ [e])) (sent (events ++ [e])) next.workers := by
  rw [jobs, filterMap_concat, ← jobs] at hattributed ⊢
  rw [sent, filterMap_concat, ← sent]
  have hbefore := hattributed.left
  cases Responding.step_cases hstep with
  | take job hidle =>
    simp only [RespondingEvent.sent, Option.toList_none, List.append_nil]
    exact h.take hpong hbefore.heard hidle hattributed.fresh
  | send hwork =>
    simp only [RespondingEvent.job, Option.toList_none, List.append_nil]
    exact h.send hbefore.heard hwork
  | finish hwork =>
    simp only [RespondingEvent.job, RespondingEvent.sent, Option.toList_none, List.append_nil]
    exact h.finish hbefore.ids hwork
  | pong =>
    simp only [RespondingEvent.job, Option.toList_none, List.append_nil]
    exact h.pong hpong
  | writerTake | write | read | readError | place | inbound | closed =>
    simp only [RespondingEvent.job, RespondingEvent.sent, Option.toList_none, List.append_nil]
    exact h

/-- Whatever beginning of the stream of messages one looks at, it leaves at most `n` streams open, since it was the
    whole stream at an earlier time. -/
theorem emission_of_run (hpong : dec.ReadsPong)
    (hrun : run (Responding.step dec localAddress capacity) Responding.start events = some s)
    (hattributed : Attributed dec localAddress (jobs events)) :
    Emission dec localAddress (jobs events) (sent events) s.workers ∧
      ∀ first, first <+: sent events → OpenAtMost n (first.map (responseItem dec)) := by
  refine run_induction (P := fun events s => Attributed dec localAddress (jobs events) →
    Emission dec localAddress (jobs events) (sent events) s.workers ∧
      ∀ first, first <+: sent events → OpenAtMost n (first.map (responseItem dec))) ?_ ?_ hrun hattributed
  · intro _
    refine ⟨.start, ?_⟩
    intro first hfirst
    rw [List.prefix_nil.mp hfirst]
    exact .of_length (Nat.zero_le n)
  · intro events s e next _ ih hstep hattributed
    have hearlier : Attributed dec localAddress (jobs events) := by
      rw [jobs, filterMap_concat] at hattributed
      exact hattributed.left
    obtain ⟨hbefore, hbound⟩ := ih hearlier
    have hemission := hbefore.step hpong hattributed hstep
    refine ⟨hemission, ?_⟩
    intro first hfirst
    rw [sent, filterMap_concat, ← sent] at hfirst
    cases hsent : e.sent with
    | none =>
      rw [hsent, Option.toList_none, List.append_nil] at hfirst
      exact hbound first hfirst
    | some message =>
      rw [hsent, Option.toList_some, List.prefix_concat_iff] at hfirst
      obtain rfl | hfirst := hfirst
      · have hnow := hemission.openAtMost hpong hattributed.heard
        rwa [sent, filterMap_concat, hsent] at hnow
      · exact hbound first hfirst

end myngrok.pipeline
