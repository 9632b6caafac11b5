import Myngrok.Gateway.Assembly
import Myngrok.Tunnels.Queues

open golang Result websocket myngrok.protocol
open myngrok.gateway (Calls CallEvent Chan Response Session chunkMessage)

namespace myngrok.tunnels

variable {request : PublicRequest} {id : GoString} {pieces : List Bytes} {piece : Bytes} {eof eof' : Prop}
  {out before : List Message} {message : Message} {after : After} {phase : Phase}

/-- The frames of a body that was read in these pieces. -/
def bodyFrames (id : GoString) (pieces : List Bytes) : List BinaryFrame :=
  pieces.mapIdx fun i payload =>
    { type := requestBodyChunk, requestID := id, sequence := UInt32.ofNat i, payload }

/-- What is sent of a request of which these pieces have been read. -/
def opening (request : PublicRequest) (id : GoString) (pieces : List Bytes) : List Message :=
  httpRequestStartMessage (startPayload request id) :: (bodyFrames id pieces).map chunkMessage

/-- The message that carries the next piece. -/
def nextFrame (id : GoString) (pieces : List Bytes) (payload : Bytes) : BinaryFrame :=
  { type := requestBodyChunk, requestID := id, sequence := UInt32.ofNat pieces.length, payload }

theorem bodyFrames_concat (id : GoString) (pieces : List Bytes) (piece : Bytes) :
    bodyFrames id (pieces ++ [piece]) = bodyFrames id pieces ++ [nextFrame id pieces piece] := by
  rw [bodyFrames, List.mapIdx_concat]
  rfl

theorem opening_concat (request : PublicRequest) (id : GoString) (pieces : List Bytes) (piece : Bytes) :
    opening request id (pieces ++ [piece]) = opening request id pieces ++ [chunkMessage (nextFrame id pieces piece)] := by
  rw [opening, bodyFrames_concat, List.map_append, opening]
  rfl

theorem chunkBytes_bodyFrames (id : GoString) (pieces : List Bytes) :
    chunkBytes (bodyFrames id pieces) = pieces.flatten := by
  induction pieces using List.reverseRecOn with
  | nil => rfl
  | append_singleton pieces piece ih =>
    rw [bodyFrames_concat, chunkBytes_concat, ih, List.flatten_append, List.flatten_singleton]
    rfl

/-- The pieces are a beginning of the body, and every one of them fits in a frame. -/
structure Covers (request : PublicRequest) (id : GoString) (pieces : List Bytes) : Prop where
  bytes : pieces.flatten <+: request.body
  formed : ∀ frame ∈ bodyFrames id pieces, frame.WellFormed

theorem covers_nil (request : PublicRequest) (id : GoString) : Covers request id [] := by
  refine ⟨List.nil_prefix, ?_⟩
  intro frame hmem
  cases hmem

theorem Covers.left (hcovers : Covers request id (pieces ++ [piece])) : Covers request id pieces := by
  obtain ⟨hbytes, hformed⟩ := hcovers
  rw [bodyFrames_concat] at hformed
  rw [List.flatten_append] at hbytes
  exact ⟨(List.prefix_append _ _).trans hbytes, fun frame hmem => hformed frame (List.mem_append_left _ hmem)⟩

theorem Covers.last_formed (hcovers : Covers request id (pieces ++ [piece])) : (nextFrame id pieces piece).WellFormed := by
  refine hcovers.formed _ ?_
  rw [bodyFrames_concat]
  exact List.mem_append_right _ (List.mem_singleton_self _)

/-- What was sent before a message that is being sent, and what that message is. `eof` says that `io.EOF` has been
    read. -/
def Sending (request : PublicRequest) (id : GoString) (eof : Prop) (out : List Message) (message : Message) :
    After → Prop
  | .started => out = [] ∧ message = httpRequestStartMessage (startPayload request id)
  | .more sequence offset => ∃ pieces piece, Covers request id (pieces ++ [piece]) ∧
      out = opening request id pieces ∧ message = chunkMessage (nextFrame id pieces piece) ∧
      sequence = UInt32.ofNat (pieces ++ [piece]).length ∧ offset = (pieces ++ [piece]).flatten.length
  | .readFailed _ => ∃ pieces piece, Covers request id (pieces ++ [piece]) ∧
      out = opening request id pieces ∧ message = chunkMessage (nextFrame id pieces piece)
  | .finish => ∃ pieces piece, Covers request id (pieces ++ [piece]) ∧
      out = opening request id pieces ∧ message = chunkMessage (nextFrame id pieces piece) ∧
      eof ∧ (pieces ++ [piece]).flatten = request.body
  | .wait => ∃ pieces, Covers request id pieces ∧ out = opening request id pieces ∧
      message = httpRequestEndMessage id ∧ eof ∧ pieces.flatten = request.body

/-- The request has been started and has got its end: its body was read to `io.EOF`. -/
def Ended (request : PublicRequest) (id : GoString) (eof : Prop) (out : List Message) : Prop :=
  ∃ pieces, Covers request id pieces ∧ out = opening request id pieces ++ [httpRequestEndMessage id] ∧ eof ∧
    pieces.flatten = request.body

/-- The request has been started, with or without its end. -/
def Begun (request : PublicRequest) (id : GoString) (eof : Prop) (out : List Message) : Prop :=
  (∃ pieces, Covers request id pieces ∧ out = opening request id pieces) ∨ Ended request id eof out

/-- What a handler that is done with its request has sent. -/
def Left (request : PublicRequest) (id : GoString) (eof : Prop) (out : List Message) : Prop :=
  out = [] ∨ Begun request id eof out ∨
    ∃ before, Begun request id eof before ∧ out = before ++ [cancelRequestMessage id]

/-- What a handler has put in the outbound queue when it is in a phase. -/
def Sent (request : PublicRequest) (id : GoString) (eof : Prop) (out : List Message) : Phase → Prop
  | .routed => out = []
  | .sending message after => Sending request id eof out message after
  | .enqueueing _ message after => Sending request id eof out message after
  | .reading sequence offset => ∃ pieces, Covers request id pieces ∧ out = opening request id pieces ∧
      sequence = UInt32.ofNat pieces.length ∧ offset = pieces.flatten.length
  | .waiting => Ended request id eof out
  | .cancelling _ => Begun request id eof out
  | .offering _ _ => Begun request id eof out
  | .leaving _ => Left request id eof out
  | .returned _ => Left request id eof out

theorem Ended.mono (hended : Ended request id eof out) (heof : eof → eof') : Ended request id eof' out := by
  obtain ⟨pieces, hcovers, hout, hread, hwhole⟩ := hended
  exact ⟨pieces, hcovers, hout, heof hread, hwhole⟩

theorem Begun.mono (hbegun : Begun request id eof out) (heof : eof → eof') : Begun request id eof' out := by
  obtain hopening | hended := hbegun
  · exact .inl hopening
  · exact .inr (hended.mono heof)

theorem Left.mono (hleft : Left request id eof out) (heof : eof → eof') : Left request id eof' out := by
  obtain hnone | hbegun | ⟨before, hbegun, hout⟩ := hleft
  · exact .inl hnone
  · exact .inr (.inl (hbegun.mono heof))
  · exact .inr (.inr ⟨before, hbegun.mono heof, hout⟩)

theorem Sending.mono (hsending : Sending request id eof out message after) (heof : eof → eof') :
    Sending request id eof' out message after := by
  cases after with
  | started | more | readFailed => exact hsending
  | finish =>
    obtain ⟨pieces, piece, hcovers, hout, hmessage, hread, hwhole⟩ := hsending
    exact ⟨pieces, piece, hcovers, hout, hmessage, heof hread, hwhole⟩
  | wait =>
    obtain ⟨pieces, hcovers, hout, hmessage, hread, hwhole⟩ := hsending
    exact ⟨pieces, hcovers, hout, hmessage, heof hread, hwhole⟩

theorem Sent.mono (hsent : Sent request id eof out phase) (heof : eof → eof') : Sent request id eof' out phase := by
  cases phase with
  | routed | reading => exact hsent
  | sending | enqueueing => exact Sending.mono hsent heof
  | waiting => exact Ended.mono hsent heof
  | cancelling | offering => exact Begun.mono hsent heof
  | leaving | returned => exact Left.mono hsent heof

theorem Begun.ne_nil (hbegun : Begun request id eof out) : out ≠ [] := by
  obtain ⟨pieces, _, rfl⟩ | ⟨pieces, _, rfl, _⟩ := hbegun
  · exact List.cons_ne_nil _ _
  · exact List.cons_ne_nil _ _

/-- A message that is not sent leaves the request as it was begun. -/
theorem Sending.begun (hsending : Sending request id eof out message after) (hafter : after ≠ .started) :
    Begun request id eof out := by
  left
  cases after with
  | started => exact absurd rfl hafter
  | more | readFailed | finish =>
    obtain ⟨pieces, piece, hcovers, hout, _⟩ := hsending
    exact ⟨pieces, hcovers.left, hout⟩
  | wait =>
    obtain ⟨pieces, hcovers, hout, _⟩ := hsending
    exact ⟨pieces, hcovers, hout⟩

/-- Whatever the phase, what was sent is what a handler may leave behind. -/
theorem Sent.left (hsent : Sent request id eof out phase) : Left request id eof out := by
  cases phase with
  | routed => exact .inl hsent
  | sending message after | enqueueing _ message after =>
    have hsending : Sending request id eof out message after := hsent
    by_cases hafter : after = .started
    · subst hafter
      exact .inl hsending.1
    · exact .inr (.inl (hsending.begun hafter))
  | reading =>
    obtain ⟨pieces, hcovers, hout, _⟩ := hsent
    exact .inr (.inl (.inl ⟨pieces, hcovers, hout⟩))
  | waiting => exact .inr (.inl (.inr hsent))
  | cancelling | offering => exact .inr (.inl hsent)
  | leaving | returned => exact hsent

/-- What a message of a request can be, by the messages that came before it. -/
inductive Follows (request : PublicRequest) (id : GoString) (eof : Prop) : List Message → Message → Prop where
  | start : Follows request id eof [] (httpRequestStartMessage (startPayload request id))
  | chunk {pieces : List Bytes} {piece : Bytes} (hcovers : Covers request id (pieces ++ [piece])) :
    Follows request id eof (opening request id pieces) (chunkMessage (nextFrame id pieces piece))
  | finish {pieces : List Bytes} (hcovers : Covers request id pieces) (heof : eof)
      (hwhole : pieces.flatten = request.body) :
    Follows request id eof (opening request id pieces) (httpRequestEndMessage id)
  | cancel (before : List Message) : Follows request id eof before (cancelRequestMessage id)

theorem Covers.follows (hcovers : Covers request id pieces) (h : before ++ [message] <+: opening request id pieces) :
    Follows request id eof before message := by
  induction pieces using List.reverseRecOn with
  | nil =>
    have hstart : before ++ [message] <+: [] ++ [httpRequestStartMessage (startPayload request id)] := h
    obtain hall | hnone := List.prefix_concat_iff.mp hstart
    · obtain ⟨rfl, hlast⟩ := List.append_inj' hall rfl
      cases hlast
      exact .start
    · cases (List.append_eq_nil_iff.mp (List.prefix_nil.mp hnone)).2
  | append_singleton pieces piece ih =>
    rw [opening_concat] at h
    obtain hall | hpart := List.prefix_concat_iff.mp h
    · obtain ⟨rfl, hlast⟩ := List.append_inj' hall rfl
      cases hlast
      exact .chunk hcovers
    · exact ih hcovers.left hpart

theorem Begun.follows (hbegun : Begun request id eof out) (h : before ++ [message] <+: out) :
    Follows request id eof before message := by
  obtain ⟨pieces, hcovers, rfl⟩ | ⟨pieces, hcovers, rfl, heof, hwhole⟩ := hbegun
  · exact hcovers.follows h
  · obtain hall | hpart := List.prefix_concat_iff.mp h
    · obtain ⟨rfl, hlast⟩ := List.append_inj' hall rfl
      cases hlast
      exact .finish hcovers heof hwhole
    · exact hcovers.follows hpart

theorem Left.follows (hleft : Left request id eof out) (h : before ++ [message] <+: out) :
    Follows request id eof before message := by
  obtain rfl | hbegun | ⟨sent, hbegun, rfl⟩ := hleft
  · cases (List.append_eq_nil_iff.mp (List.prefix_nil.mp h)).2
  · exact hbegun.follows h
  · obtain hall | hpart := List.prefix_concat_iff.mp h
    · obtain ⟨rfl, hlast⟩ := List.append_inj' hall rfl
      cases hlast
      exact .cancel _
    · exact hbegun.follows hpart

/-- A read continues the pieces read before, and `io.EOF` says that they are all. -/
theorem flatten_concat_read {count : Nat} {err : Option ReadError} (hcovers : Covers request id pieces)
    (hallowed : readAllowed request pieces.flatten.length count err) :
    (pieces ++ [(request.body.drop pieces.flatten.length).take count]).flatten <+: request.body ∧
    (pieces ++ [(request.body.drop pieces.flatten.length).take count]).flatten.length = pieces.flatten.length + count ∧
    (err = some .eof → (pieces ++ [(request.body.drop pieces.flatten.length).take count]).flatten = request.body) := by
  simp only [readAllowed, Bool.and_eq_true, decide_eq_true_eq] at hallowed
  obtain ⟨⟨⟨_, hbody⟩, _⟩, herr⟩ := hallowed
  have hbytes : (pieces ++ [(request.body.drop pieces.flatten.length).take count]).flatten =
      request.body.take (pieces.flatten.length + count) := by
    rw [List.flatten_append, List.flatten_singleton, List.take_add, ← List.prefix_iff_eq_take.mp hcovers.bytes]
  rw [hbytes]
  refine ⟨List.take_prefix _ _, by rw [List.length_take]; omega, ?_⟩
  rintro rfl
  simp only [decide_eq_true_eq] at herr
  rw [herr, List.take_length]

namespace Handler

/-- The handler has sent `out` so far. -/
def HasSent (h : Handler) (eof : Prop) (out : List Message) : Prop := Sent h.request h.id eof out h.phase

variable {h : Handler}

theorem HasSent.unsent (hsending : Sending h.request h.id eof out message after) :
    (h.unsent after).HasSent eof out := by
  cases after with
  | started => exact .inl hsending.1
  | more | readFailed | finish | wait =>
    have hbegun := hsending.begun (by simp)
    exact hbegun

/-- The message is in the queue now. -/
theorem HasSent.sent (hsending : Sending h.request h.id eof out message after) :
    (h.sent after).HasSent eof (out ++ [message]) := by
  cases after with
  | started =>
    obtain ⟨rfl, rfl⟩ := hsending
    exact ⟨[], covers_nil _ _, rfl, rfl, rfl⟩
  | more sequence offset =>
    obtain ⟨pieces, piece, hcovers, rfl, rfl, hsequence, hoffset⟩ := hsending
    exact ⟨pieces ++ [piece], hcovers, (opening_concat _ _ pieces piece).symm, hsequence, hoffset⟩
  | readFailed err =>
    obtain ⟨pieces, piece, hcovers, rfl, rfl⟩ := hsending
    exact .inl ⟨pieces ++ [piece], hcovers, (opening_concat _ _ pieces piece).symm⟩
  | finish =>
    obtain ⟨pieces, piece, hcovers, rfl, rfl, hread, hwhole⟩ := hsending
    exact ⟨pieces ++ [piece], hcovers, (opening_concat _ _ pieces piece).symm, rfl, hread, hwhole⟩
  | wait =>
    obtain ⟨pieces, hcovers, rfl, rfl, hread, hwhole⟩ := hsending
    exact ⟨pieces, hcovers, rfl, hread, hwhole⟩

/-- What a handler puts in the queue is the next message of its request; it is the start only for a handler that has
    sent nothing yet. -/
theorem HasSent.follows {e : HandlerEvent} {queue : Chan} (hsent : h.HasSent eof out)
    (hemits : h.emits e = some (queue, message)) :
    Follows h.request h.id eof out message ∧
      (out = [] → e = .enqueue ∧ h.phase = .enqueueing queue message .started) := by
  have hphase : Sent h.request h.id eof out h.phase := hsent
  unfold Handler.emits at hemits
  split at hemits
  · rename_i own other after henqueueing
    cases hemits
    rw [henqueueing] at hphase
    have hsending : Sending h.request h.id eof out message after := hphase
    have hnext : (h.sent after).HasSent eof (out ++ [message]) := .sent hsending
    refine ⟨by cases after <;> exact (Sent.left hnext).follows List.prefix_rfl, ?_⟩
    rintro rfl
    have hafter : after = .started := by
      by_contra hafter
      exact (hsending.begun hafter).ne_nil rfl
    exact ⟨rfl, by rw [henqueueing, hafter]⟩
  · rename_i own reply hoffering
    cases hemits
    rw [hoffering] at hphase
    exact ⟨.cancel _, fun hnil => absurd hnil (Begun.ne_nil hphase)⟩
  · cases hemits

theorem HasSent.read {h' : Handler} {sequence : UInt32} {offset count : Nat} {err : Option ReadError}
    (hsent : Sent h.request h.id eof out (.reading sequence offset)) (hallowed : readAllowed h.request offset count err)
    (hread : h.afterRead sequence offset count err = some h') (heof : err = some .eof → eof') :
    h'.HasSent eof' out := by
  obtain ⟨pieces, hcovers, rfl, rfl, rfl⟩ := hsent
  obtain ⟨hfirst, hlength, hwhole⟩ := flatten_concat_read hcovers hallowed
  unfold afterRead at hread
  split at hread
  · split at hread
    · rename_i data hmarshal
      obtain ⟨hformed, rfl⟩ := BinaryFrame.marshalBinary_eq_ok_iff.mp hmarshal
      have hcovers' : Covers h.request h.id (pieces ++ [(h.request.body.drop pieces.flatten.length).take count]) := by
        refine ⟨hfirst, ?_⟩
        intro frame hmem
        rw [bodyFrames_concat, List.mem_append, List.mem_singleton] at hmem
        obtain hmem | rfl := hmem
        · exact hcovers.formed frame hmem
        · exact hformed
      cases hread
      cases err with
      | none =>
        refine ⟨pieces, _, hcovers', rfl, rfl, ?_, hlength.symm⟩
        rw [List.length_append, List.length_singleton, UInt32.ofNat_add]
        rfl
      | some err =>
        cases err with
        | eof => exact ⟨pieces, _, hcovers', rfl, rfl, heof rfl, hwhole rfl⟩
        | tooLarge | failed => exact ⟨pieces, _, hcovers', rfl, rfl⟩
    · cases hread
      exact .inl ⟨pieces, hcovers, rfl⟩
    · cases hread
  · rename_i hcount
    have hzero : count = 0 := by omega
    subst hzero
    rw [List.take_zero, List.flatten_append, List.flatten_singleton, List.append_nil] at hwhole
    split at hread
    · cases hread
      exact ⟨pieces, hcovers, rfl, rfl, rfl⟩
    · cases hread
      exact ⟨pieces, hcovers, rfl, rfl, heof rfl, hwhole rfl⟩
    · cases hread
      exact .inl ⟨pieces, hcovers, rfl⟩

end Handler

variable {Thread : Type} [DecidableEq Thread]

/-- Every action of a handler keeps what it has sent in step with its phase. -/
theorem Handler.HasSent.acts {s s' : PublicSystem Thread} {h h' : Handler} {e : HandlerEvent}
    (hsent : h.HasSent eof out) (hacts : s.Acts h e s' h') (heof : eof → eof')
    (hread : ∀ count, e = .read count (some .eof) → eof') :
    h'.HasSent eof' (out ++ ((h.emits e).map Prod.snd).toList) := by
  have hkept : Sent h.request h.id eof' out h.phase := Sent.mono hsent heof
  cases hacts with
  | register hphase hcall =>
    rw [hphase] at hkept
    simp only [emits, hphase, Option.map_none, Option.toList_none, List.append_nil]
    exact ⟨hkept, rfl⟩
  | lookupFound hphase =>
    rw [hphase] at hkept
    simp only [emits, hphase, Option.map_none, Option.toList_none, List.append_nil]
    exact hkept
  | lookupMissing hphase | sendDone hphase =>
    rw [hphase] at hkept
    simp only [emits, hphase, Option.map_none, Option.toList_none, List.append_nil]
    exact HasSent.unsent hkept
  | enqueue hphase =>
    rw [hphase] at hkept
    simp only [emits, hphase, Option.map_some, Option.toList_some]
    exact HasSent.sent hkept
  | read hphase hallowed hafter =>
    have hreading : Sent h.request h.id eof out h.phase := hsent
    rw [hphase] at hreading
    simp only [emits, hphase, Option.map_none, Option.toList_none, List.append_nil]
    exact HasSent.read hreading hallowed hafter fun herr => hread _ (by rw [herr])
  | receive hphase | waitDone hphase | timeout hphase =>
    rw [hphase] at hkept
    simp only [emits, hphase, Option.map_none, Option.toList_none, List.append_nil]
    first
      | exact .inr (.inl (.inr hkept))
      | exact .inr hkept
  | cancelFound hphase =>
    rw [hphase] at hkept
    simp only [emits, hphase, Option.map_none, Option.toList_none, List.append_nil]
    exact hkept
  | cancelMissing hphase | refused hphase =>
    rw [hphase] at hkept
    simp only [emits, hphase, Option.map_none, Option.toList_none, List.append_nil]
    exact .inr (.inl hkept)
  | offered hphase =>
    rw [hphase] at hkept
    simp only [emits, hphase, Option.map_some, Option.toList_some]
    exact .inr (.inr ⟨out, hkept, rfl⟩)
  | cancelRequest hphase =>
    rw [hphase] at hkept
    simp only [emits, hphase, Option.map_none, Option.toList_none, List.append_nil]
    exact hkept

end myngrok.tunnels
