import Myngrok.Pipeline.Completeness
import Myngrok.Pipeline.Emission
import Myngrok.Pipeline.PublicTraffic
import Myngrok.Protocol.MessageLength

open golang websocket transition myngrok.protocol

namespace myngrok.tunnels

/-- A field of a public request is passed on unless it is a hop-by-hop field, named by a `Connection` field, or one that
    the gateway sets itself. -/
def passesField (headers : Headers) (name : GoString) : Bool :=
  name ∉ ((headers.values (lit "Connection")).flatMap (fun value =>
    (strings.splitByte 0x2C value).map strings.trimSpace) ++ hopByHopHeaders).map http.canonicalHeaderKey &&
  !isForwarded name && name ≠ lit "X-Tunnel-Request-Id"

/-- The fields that the agent is sent for a request, next to the one with the request ID. -/
def PublicRequest.sentFields (r : PublicRequest) : List (Sigma fun _ : GoString => List GoString) :=
  [⟨lit "X-Forwarded-Proto", [if r.tls then lit "https" else lit "http"]⟩, ⟨lit "X-Forwarded-Host", [r.host]⟩,
    ⟨lit "X-Forwarded-For", [requestClientIP r]⟩] ++ r.header.entries.filter fun field => passesField r.header field.1

/-- How many bytes the start of a request takes, by its method, its URI, the length of its body and its fields; the rest
    of the text, with the request ID in two places, is fixed. -/
def PublicRequest.startLength (r : PublicRequest) : Nat :=
  186 + json.quotedLength r.method + json.quotedLength r.requestURI + json.numberLength r.contentLength +
    fieldsLength r.sentFields

theorem requestClientIP_ne_nil (r : PublicRequest) : requestClientIP r ≠ [] := by
  simp only [requestClientIP]
  split <;> split
  all_goals first | exact List.cons_ne_nil _ _ | assumption

/-- The fields that are left after the two filters. -/
theorem entries_withoutHopByHopHeaders (headers : Headers) :
    (withoutHopByHopHeaders headers).entries = headers.entries.filter fun field =>
      field.1 ∉ ((headers.values (lit "Connection")).flatMap (fun value =>
        (strings.splitByte 0x2C value).map strings.trimSpace) ++ hopByHopHeaders).map http.canonicalHeaderKey := by
  rw [withoutHopByHopHeaders, http.Header.entries_foldl_del]

theorem entries_foldl_forwarded (headers : Headers) :
    ((headers.keys.filter isForwarded).foldl (fun headers name => headers.erase name) headers).entries =
      headers.entries.filter fun field => !isForwarded field.1 := by
  rw [Map.entries_foldl_erase]
  refine List.filter_congr ?_
  intro field hmem
  have hkey : field.1 ∈ headers.keys := List.mem_keys_of_mem hmem
  simp [List.mem_filter, hkey]

theorem entries_publicRequestHeaders (r : PublicRequest) (id : GoString) :
    (publicRequestHeaders r id).entries = ⟨lit "X-Tunnel-Request-Id", [id]⟩ :: r.sentFields := by
  have hnames : http.canonicalHeaderKey (lit "X-Forwarded-For") = lit "X-Forwarded-For" ∧
      http.canonicalHeaderKey (lit "X-Forwarded-Host") = lit "X-Forwarded-Host" ∧
      http.canonicalHeaderKey (lit "X-Forwarded-Proto") = lit "X-Forwarded-Proto" ∧
      http.canonicalHeaderKey (lit "X-Tunnel-Request-ID") = lit "X-Tunnel-Request-Id" := by decide
  have hdistinct : lit "X-Forwarded-Proto" ≠ lit "X-Tunnel-Request-Id" ∧
      lit "X-Forwarded-Host" ≠ lit "X-Tunnel-Request-Id" ∧ lit "X-Forwarded-For" ≠ lit "X-Tunnel-Request-Id" ∧
      lit "X-Forwarded-Host" ≠ lit "X-Forwarded-Proto" ∧ lit "X-Forwarded-For" ≠ lit "X-Forwarded-Proto" ∧
      lit "X-Forwarded-For" ≠ lit "X-Forwarded-Host" := by decide
  have hforwarded : isForwarded (lit "X-Forwarded-For") = true ∧ isForwarded (lit "X-Forwarded-Host") = true ∧
      isForwarded (lit "X-Forwarded-Proto") = true := by decide
  simp only [publicRequestHeaders, if_pos (requestClientIP_ne_nil r), http.Header.entries_set, hnames,
    entries_foldl_forwarded, entries_withoutHopByHopHeaders, List.filter_filter, List.filter_cons, ne_eq, hdistinct,
    not_false_eq_true, decide_true, if_true, PublicRequest.sentFields, List.cons_append, List.nil_append]
  refine congrArg _ (congrArg _ (congrArg _ (congrArg _ (List.filter_congr ?_))))
  rintro ⟨name, values⟩ _
  -- A field that is not forwarded has none of the three names.
  dsimp only [passesField]
  cases hname : isForwarded name with
  | true => simp
  | false =>
    have hother : ∀ {other}, isForwarded other = true → name ≠ other := by
      rintro other hother rfl
      rw [hname] at hother
      cases hother
    simp [hother hforwarded.1, hother hforwarded.2.1, hother hforwarded.2.2, Bool.and_comm]

variable {id : GoString}

theorem IsPublicRequestID.quotedLength_eq (h : IsPublicRequestID id) : json.quotedLength id = 30 := by
  rw [json.quotedLength_of_plain h.plain, h.length_eq]

theorem length_startMessage (r : PublicRequest) (hid : IsPublicRequestID id) :
    (httpRequestStartMessage (startPayload r id)).data.length = r.startLength := by
  have hname : json.quotedLength (lit "X-Tunnel-Request-Id") = 21 := rfl
  rw [length_httpRequestStartMessage, length_headersValue]
  simp only [startPayload, entries_publicRequestHeaders, reduceCtorEq, if_false, fieldsLength, List.map_cons,
    List.sum_cons, fieldLength, valuesLength, List.map_nil, List.sum_nil, hname, hid.quotedLength_eq,
    PublicRequest.startLength]
  omega

end myngrok.tunnels

namespace myngrok.gatewayclient

open myngrok.tunnels (IsPublicRequestID)

/-- The fields of an answer that the gateway is sent. -/
def LocalAnswer.sentFields (answer : LocalAnswer) : List (Sigma fun _ : GoString => List GoString) :=
  answer.header.entries.filter fun field =>
    field.1 ∉ ((answer.header.values (lit "Connection")).flatMap (fun value =>
      (strings.splitByte 0x2C value).map strings.trimSpace) ++ hopByHopHeaders).map http.canonicalHeaderKey

/-- How many bytes the start of a response takes, by the status and the fields of the answer or the text of the
    error. -/
def startLength : Except Error LocalAnswer → Nat
  | .error err => 144 + json.quotedLength err
  | .ok answer => 129 + json.numberLength answer.statusCode +
      if answer.sentFields = [] then 4 else 1 + fieldsLength answer.sentFields

theorem length_jobStart {request : Request} (hid : IsPublicRequestID request.id) {outcome : Except Error LocalAnswer}
    (herror : ∀ err, outcome = .error err → err ≠ []) :
    (httpResponseStartMessage (pipeline.jobStart request outcome)).data.length = startLength outcome := by
  have hnumbers : json.numberLength (-1) = 2 ∧ json.numberLength 0 = 1 ∧ json.numberLength 502 = 3 := by decide
  rw [length_httpResponseStartMessage, length_headersValue]
  cases outcome with
  | error err =>
    have hne := herror err rfl
    simp only [pipeline.jobStart, responseError, hid.quotedLength_eq, hnumbers, AList.empty_entries, if_true, hne,
      if_false, startLength]
    omega
  | ok answer =>
    have hfields : (withoutHopByHopHeaders answer.header).entries = answer.sentFields := by
      rw [withoutHopByHopHeaders, http.Header.entries_foldl_del, LocalAnswer.sentFields]
    simp only [pipeline.jobStart, responseStart, LocalAnswer.response, hid.quotedLength_eq, hnumbers, hfields, if_true,
      startLength]
    omega

/-- All messages of a job can be read exactly when its start can. -/
theorem Job.messages_readable_iff {job : Job} {localAddress : GoString} (haddress : localAddress ≠ [])
    (hid : IsPublicRequestID job.request.id) :
    (∀ message ∈ job.messages localAddress, message.data.length ≤ gateway.websocketReadLimit) ↔
      startLength (job.outcome localAddress) ≤ gateway.websocketReadLimit := by
  have hframes := pipeline.fitsFrames_of_public hid
  have hlength : (httpResponseStartMessage (pipeline.jobStart job.request (job.outcome localAddress))).data.length =
      startLength (job.outcome localAddress) :=
    length_jobStart hid fun err herror => pipeline.localExchange_error_ne_nil herror
  rw [Job.messages_eq haddress hframes, ← hlength]
  constructor
  · intro hall
    exact hall _ (by rw [pipeline.jobMessages_eq]; exact List.mem_cons_self)
  · intro hstart message hmem
    exact pipeline.jobMessages_readable hframes hstart hmem

end myngrok.gatewayclient

namespace myngrok.pipeline

open myngrok.tunnels
open myngrok.gatewayclient (Job Reading)

variable {Thread : Type} [DecidableEq Thread] {baseDomain : GoString} {events : List (PublicEvent Thread)}
  {s : PublicSystem Thread} {id : GoString} {h : Handler} {message : Message}

/-- In the run, the handler of a request puts the message in the queue of its session. -/
def Enqueues (baseDomain : GoString) (events : List (PublicEvent Thread)) (id : GoString) (message : Message) : Prop :=
  ∃ before e after s h queue, events = before ++ .handler id e :: after ∧
    run (PublicSystem.step baseDomain) PublicSystem.start before = some s ∧ s.handlers.lookup id = some h ∧
    h.emits e = some (queue, message)

theorem hasSent_of_run (hrun : run (PublicSystem.step baseDomain) PublicSystem.start events = some s)
    (hlookup : s.handlers.lookup id = some h) : ∃ out, h.HasSent True out := by
  refine run_induction (P := fun _ s => ∀ id h, s.handlers.lookup id = some h → ∃ out, h.HasSent True out) ?_ ?_
    hrun id h hlookup
  · intro id h hlookup
    cases hlookup
  · intro events s e next _ ih hstep id h hlookup
    by_cases hown : ∃ e', e = .handler id e'
    · obtain ⟨e', rfl⟩ := hown
      cases PublicSystem.step_cases hstep with
      | @handler _ _ old handler' s' hold hacts =>
        rw [PublicSystem.setHandler_lookup, if_pos rfl] at hlookup
        cases hlookup
        obtain ⟨out, hsent⟩ := ih id old hold
        exact ⟨_, hsent.acts hacts (fun _ => trivial) fun _ _ => trivial⟩
    · rw [not_exists] at hown
      obtain hold | ⟨_, hphase⟩ := lookup_of_step hstep hown hlookup
      · exact ih id h hold
      · exact ⟨[], by rw [Handler.HasSent, hphase]; rfl⟩

theorem run_handlers (hlookup : s.handlers.lookup id = some h) {next : PublicSystem Thread}
    (hrun : run (PublicSystem.step baseDomain) s events = some next) :
    ∃ h', next.handlers.lookup id = some h' ∧ h'.request = h.request := by
  induction events generalizing s h with
  | nil =>
    cases hrun
    exact ⟨h, hlookup, rfl⟩
  | cons e events ih =>
    rw [run_cons] at hrun
    obtain ⟨middle, hstep, hrest⟩ := Option.bind_eq_some_iff.mp hrun
    obtain ⟨h', hlookup', hrequest, _⟩ := step_handlers hstep hlookup
    obtain ⟨last, hlast, hsame⟩ := ih hlookup' hrest
    exact ⟨last, hlast, hsame.trans hrequest⟩

/-- Whatever a handler enqueues in a run is a message of its request. -/
theorem Enqueues.follows (henqueues : Enqueues baseDomain events id message)
    (hrun : run (PublicSystem.step baseDomain) PublicSystem.start events = some s)
    (hlookup : s.handlers.lookup id = some h) : ∃ out, Follows h.request id True out message := by
  obtain ⟨before, e, after, s', h', queue, rfl, hbefore, hlookup', hemits⟩ := henqueues
  obtain ⟨middle, hmiddle, hrest⟩ := exists_run_of_append hrun
  rw [hbefore] at hmiddle
  cases hmiddle
  obtain ⟨last, hlast, hrequest⟩ := run_handlers hlookup' hrest
  rw [hlookup] at hlast
  cases hlast
  obtain ⟨out, hsent⟩ := hasSent_of_run hbefore hlookup'
  have hfollows := (hsent.follows hemits).1
  rw [PublicSystem.Waiters.keyed (PublicSystem.waiters hbefore) hlookup', ← hrequest] at hfollows
  exact ⟨out, hfollows⟩

/-- The messages of a request fit in WebSocket messages exactly when what is in its start does, and so do those of a
    response. -/
theorem messages_fit_iff (hrun : run (PublicSystem.step baseDomain) PublicSystem.start events = some s)
    (hlookup : s.handlers.lookup id = some h) (hid : IsPublicRequestID id)
    (hstarted : Enqueues baseDomain events id (httpRequestStartMessage (startPayload h.request id)))
    {localAddress : GoString} (haddress : localAddress ≠ []) {job : Job} (hjob : IsPublicRequestID job.request.id) :
    ((∀ message, Enqueues baseDomain events id message → message.data.length ≤ 65536) ↔
      h.request.startLength ≤ 65536) ∧
    ((∀ message ∈ job.messages localAddress, message.data.length ≤ 65536) ↔
      gatewayclient.startLength (job.outcome localAddress) ≤ 65536) := by
  refine ⟨?_, job.messages_readable_iff haddress hjob⟩
  rw [← length_startMessage h.request hid]
  constructor
  · intro hall
    exact hall _ hstarted
  · intro hstart message henqueues
    obtain ⟨out, hfollows⟩ := henqueues.follows hrun hlookup
    obtain rfl | hlength := length_of_follows hid hfollows
    · exact hstart
    · exact hlength

/-- A request and an answer with one field of the given value. -/
def bulkyRequest (value : GoString) : PublicRequest :=
  { sampleRequest [] with header := (∅ : Headers).insert (lit "Cookie") [value] }

def bulkyArrival (value : GoString) : List (PublicEvent Unit) :=
  let id := publicRequestID (List.replicate 12 0)
  [.connect sampleSession 1, .openTunnel sampleTunnel, .route (bulkyRequest value) 1 (some (List.replicate 12 0)),
    .handler id (.register (lit "ses_1") 0), .handler id (.lookup (some 0)), .handler id .enqueue]

def bulkyJob (value : GoString) : Job :=
  { request := helloRequest
    service := helloService { statusCode := 200, header := (∅ : Headers).insert (lit "Set-Cookie") [value], pieces := []
                              last := [], failure := none, fits := gatewayclient.LocalAnswer.fits_empty } }

/-- The handler's first message is the start of this request, as far as it gets. -/
theorem bulkyArrival_enqueues {value : GoString}
    (hsending : (run (PublicSystem.step (lit "tunnel.example")) PublicSystem.start (bulkyArrival value).dropLast).map
      (fun s => (s.handlers.lookup (publicRequestID (List.replicate 12 0))).map fun h =>
        match h.phase with
        | .enqueueing _ _ .started => true
        | _ => false) = some (some true)) :
    Enqueues (lit "tunnel.example") (bulkyArrival value) (publicRequestID (List.replicate 12 0))
      (httpRequestStartMessage (startPayload (bulkyRequest value) (publicRequestID (List.replicate 12 0)))) := by
  obtain ⟨s, hrun, hstate⟩ := Option.map_eq_some_iff.mp hsending
  obtain ⟨h, hlookup, hphase⟩ := Option.map_eq_some_iff.mp hstate
  split at hphase
  · rename_i queue message henqueueing
    obtain ⟨out, hsent⟩ := hasSent_of_run hrun hlookup
    rw [Handler.HasSent, henqueueing] at hsent
    obtain ⟨_, now, random, hroute, hid⟩ := routed_of_run hrun hlookup
    have hrequest : h.request = bulkyRequest value := by
      simp only [bulkyArrival, List.dropLast, List.mem_cons, PublicEvent.route.injEq, reduceCtorEq, List.not_mem_nil,
        or_self, false_or, or_false] at hroute
      exact hroute.1
    have hmessage : message = httpRequestStartMessage
        (startPayload (bulkyRequest value) (publicRequestID (List.replicate 12 0))) := by
      rw [← hrequest, ← PublicSystem.Waiters.keyed (PublicSystem.waiters hrun) hlookup]
      exact hsent.2
    refine ⟨(bulkyArrival value).dropLast, .enqueue, [], s, h, queue, rfl, hrun, hlookup, ?_⟩
    rw [← hmessage]
    simp [Handler.emits, henqueueing]
  · cases hphase

theorem messages_fit_iff_cookie :
    (∀ message, Enqueues (lit "tunnel.example") (bulkyArrival (lit "a=b")) (publicRequestID (List.replicate 12 0))
      message → message.data.length ≤ 65536) ∧
    ∀ message ∈ (bulkyJob (lit "a=b")).messages (lit "8080"), message.data.length ≤ 65536 := by
  have hfacts : (run (PublicSystem.step (lit "tunnel.example")) PublicSystem.start (bulkyArrival (lit "a=b"))).map
      (fun s => (s.handlers.lookup (publicRequestID (List.replicate 12 0))).map Handler.request) =
      some (some (bulkyRequest (lit "a=b"))) := by decide +kernel
  obtain ⟨s, hrun, hstate⟩ := Option.map_eq_some_iff.mp hfacts
  obtain ⟨h, hlookup, hrequest⟩ := Option.map_eq_some_iff.mp hstate
  have hstarted := bulkyArrival_enqueues (by decide +kernel : (run (PublicSystem.step (lit "tunnel.example"))
    PublicSystem.start (bulkyArrival (lit "a=b")).dropLast).map _ = some (some true))
  have hjob : IsPublicRequestID (bulkyJob (lit "a=b")).request.id := helloRequest_public
  obtain ⟨hrequests, hresponses⟩ := messages_fit_iff hrun hlookup ⟨_, rfl, rfl⟩ (hrequest ▸ hstarted)
    (by decide : lit "8080" ≠ []) hjob
  refine ⟨hrequests.mpr ?_, hresponses.mpr (by decide +kernel)⟩
  rw [hrequest]
  decide +kernel

theorem le_startLength_bulkyRequest (value : GoString) :
    json.quotedLength value ≤ (bulkyRequest value).startLength := by
  have hfields : (bulkyRequest value).sentFields = [⟨lit "X-Forwarded-Proto", [lit "https"]⟩,
      ⟨lit "X-Forwarded-Host", [lit "demo.tunnel.example"]⟩, ⟨lit "X-Forwarded-For", [lit "192.0.2.1"]⟩,
      ⟨lit "Cookie", [value]⟩] := rfl
  rw [PublicRequest.startLength, hfields]
  simp only [fieldsLength, List.map_cons, List.sum_cons, fieldLength, valuesLength, reduceCtorEq, if_false]
  omega

theorem le_startLength_bulkyJob (value : GoString) :
    json.quotedLength value ≤ gatewayclient.startLength ((bulkyJob value).outcome (lit "8080")) := by
  have hfields : gatewayclient.startLength ((bulkyJob value).outcome (lit "8080")) = 129 +
      json.numberLength 200 + (1 + fieldsLength [⟨lit "Set-Cookie", [value]⟩]) := rfl
  rw [hfields]
  simp only [fieldsLength, List.map_cons, List.sum_cons, fieldLength, valuesLength, reduceCtorEq, if_false]
  omega

theorem quotedLength_replicate (n : Nat) : json.quotedLength (List.replicate n 0x61) = n + 2 := by
  rw [json.quotedLength_of_plain, List.length_replicate]
  intro b hmem
  rw [List.eq_of_mem_replicate hmem]
  decide

/-- A field of 65536 letters makes both messages too long. -/
def bulkyValue : GoString := List.replicate 65536 0x61

/-- Then a message is sent that the other side cannot read, in either direction. -/
theorem messages_exceed_read_limit :
    (run (PublicSystem.step (lit "tunnel.example")) PublicSystem.start (bulkyArrival bulkyValue)).isSome ∧
    (∃ message, Enqueues (lit "tunnel.example") (bulkyArrival bulkyValue) (publicRequestID (List.replicate 12 0)) message ∧
      65536 < message.data.length ∧ ∀ dec (reading : Reading), reading.step dec message = none) ∧
    ∃ message ∈ (bulkyJob bulkyValue).messages (lit "8080"), 65536 < message.data.length := by
  have hid : IsPublicRequestID (publicRequestID (List.replicate 12 0)) := ⟨_, rfl, rfl⟩
  have hvalue : 65536 < json.quotedLength bulkyValue := by
    rw [bulkyValue, quotedLength_replicate]
    decide
  refine ⟨by decide +kernel, ?_, ?_⟩
  · have hlong : 65536 < (httpRequestStartMessage (startPayload (bulkyRequest bulkyValue)
        (publicRequestID (List.replicate 12 0)))).data.length := by
      rw [length_startMessage _ hid]
      exact Nat.lt_of_lt_of_le hvalue (le_startLength_bulkyRequest _)
    refine ⟨_, bulkyArrival_enqueues (by decide +kernel), hlong, ?_⟩
    intro dec reading
    exact if_neg (Nat.not_le.mpr hlong)
  · have hlong := Nat.not_le.mpr (Nat.lt_of_lt_of_le hvalue (le_startLength_bulkyJob bulkyValue))
    have hsome := mt (Job.messages_readable_iff (by decide) helloRequest_public).mp hlong
    simp only [not_forall, Nat.not_le] at hsome
    obtain ⟨message, hmem, hlength⟩ := hsome
    exact ⟨message, hmem, hlength⟩

end myngrok.pipeline
