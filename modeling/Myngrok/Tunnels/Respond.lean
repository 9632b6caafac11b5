import Myngrok.Gateway.Assembly
import Myngrok.Go.ResponseWriter
import Myngrok.Protocol.Unmarshal
import Myngrok.Tunnels.ResponseHeaders

open golang http Result streams transition websocket myngrok.protocol myngrok.gateway

namespace myngrok.tunnels

/-- The case `response := <-responseCh` of `ServeHTTP`, up to its return. `fields` are the header fields that are left
    of the response, in the order in which `range` yields them. -/
def respond (fields : List (Sigma fun _ : GoString => List GoString)) (response : Response) : Result ResponseWriter :=
  if response.error ≠ [] then ResponseWriter.new.error response.error 502
  else do
    let w ← { ResponseWriter.new with header := addHeaders ∅ fields }.writeHeader response.statusCode
    w.write response.body

variable {response : Response}

/-- A response without an error is written just when its status has three digits. -/
theorem exists_respond_iff (fields : List (Sigma fun _ : GoString => List GoString)) (herror : response.error = []) :
    (∃ w status, respond fields response = ok w ∧ w.status = some status) ↔
      100 ≤ response.statusCode ∧ response.statusCode ≤ 999 := by
  rw [respond, if_neg (fun h => h herror),
    ← ResponseWriter.exists_writeHeader_iff (w := { ResponseWriter.new with header := addHeaders ∅ fields }) rfl]
  constructor
  · rintro ⟨w, status, hw, -⟩
    obtain ⟨next, hnext, -⟩ := bind_eq_ok_iff.mp hw
    exact ⟨next, hnext⟩
  · rintro ⟨next, hnext⟩
    obtain ⟨w, hw, hstatus⟩ := next.exists_write response.body
    exact ⟨w, _, bind_eq_ok_iff.mpr ⟨next, hnext, hw⟩, hstatus⟩

/-- Against any agent: a response without an error that the session loop delivers makes `ServeHTTP` answer the client,
    and not panic, if and only if the message that started it had a status from 100 to 999. -/
theorem delivered_response_written_iff (dec : Decoder) {events : List LoopEvent} {responses next : Responses}
    (hrun : run (sessionStep dec) ∅ events = some responses) {e : LoopEvent} {effects : List Effect}
    (hserve : serveSession dec responses e = ok (.continued next effects)) {id : GoString} {response : Response}
    (hdeliver : Effect.deliver id response ∈ effects) (herror : response.error = [])
    (fields : List (Sigma fun _ : GoString => List GoString)) :
    (∃ w status, respond fields response = ok w ∧ w.status = some status) ↔
      ∃ payload parts, Open (inboundItems dec events) id payload parts ∧
        100 ≤ payload.statusCode ∧ payload.statusCode ≤ 999 := by
  obtain ⟨a, -, hlookup, rfl, -⟩ := serveSession_delivers hserve hdeliver
  obtain ⟨parts, hopen, -⟩ := ((assembled_of_run dec hrun).streams id a).mp hlookup
  rw [exists_respond_iff fields herror]
  constructor
  · intro hstatus
    exact ⟨a.payload, parts, hopen, hstatus⟩
  · rintro ⟨payload, others, hother, hstatus⟩
    obtain ⟨rfl, -⟩ := hopen.unique hother
    exact hstatus

/-- A message of an agent as it stands on the wire. -/
def agentText (text : String) : LoopEvent := .inbound quietAnswers { messageType := .text, data := lit text }

def agentEnd : LoopEvent :=
  agentText "\x7b\"type\":\"http_response_end\",\"payload\":\x7b\"requestId\":\"req_1\"\x7d\x7d"

/-- The stream that a start with this status and no body leaves. -/
def bareAssembly (statusCode : Int) : ResponseAssembly :=
  { payload := { emptyResponse with requestID := lit "req_1", statusCode }, next := 0, body := [] }

def noContentRun : List LoopEvent :=
  [agentText "\x7b\"type\":\"http_response_start\",\"payload\":\x7b\"requestId\":\"req_1\",\"statusCode\":204\x7d\x7d"]

/-- A start with the status 204 is answered to the client. -/
theorem delivered_response_written_iff_204 :
    ∃ responses next w status, run (sessionStep (Decoder.json fun _ => [])) ∅ noContentRun = some responses ∧
      serveSession (Decoder.json fun _ => []) responses agentEnd =
        ok (.continued next [.deliver (lit "req_1") (bareAssembly 204).response]) ∧
      respond [] (bareAssembly 204).response = ok w ∧ w.status = some status := by
  have hrun : run (sessionStep (Decoder.json fun _ => [])) ∅ noContentRun =
      some ((∅ : Responses).insert (lit "req_1") (bareAssembly 204)) := by decide +kernel
  have hserve : serveSession (Decoder.json fun _ => []) ((∅ : Responses).insert (lit "req_1") (bareAssembly 204))
      agentEnd = ok (.continued ∅ [.deliver (lit "req_1") (bareAssembly 204).response]) := by decide +kernel
  obtain ⟨parts, hopen, -⟩ := ((assembled_of_run _ hrun).streams (lit "req_1") (bareAssembly 204)).mp (by decide)
  obtain ⟨w, status, hw, hstatus⟩ := (delivered_response_written_iff _ hrun hserve List.mem_cons_self rfl []).mpr
    ⟨_, parts, hopen, by decide, by decide⟩
  exact ⟨_, _, w, status, hrun, hserve, hw, hstatus⟩

def missingStatusRun : List LoopEvent :=
  [agentText "\x7b\"type\":\"http_response_start\",\"payload\":\x7b\"requestId\":\"req_1\"\x7d\x7d"]

/-- A start without a status is a response with the status 0, which the client never gets. -/
theorem missing_status_panics :
    ∃ responses next, run (sessionStep (Decoder.json fun _ => [])) ∅ missingStatusRun = some responses ∧
      serveSession (Decoder.json fun _ => []) responses agentEnd =
        ok (.continued next [.deliver (lit "req_1") (bareAssembly 0).response]) ∧
      (bareAssembly 0).response.error = [] ∧
      respond (withoutHopByHopHeaders (bareAssembly 0).response.headers).entries (bareAssembly 0).response = panic := by
  refine ⟨(∅ : Responses).insert (lit "req_1") (bareAssembly 0), ∅, ?_, ?_, rfl, rfl⟩
  · decide +kernel
  · decide +kernel

/-- The bytes of a body that the client gets: what the response takes of it, and nothing in answer to HEAD. -/
def returned (fields : List (Sigma fun _ : GoString => List GoString)) (method : GoString) (response : Response) :
    Bytes :=
  match respond fields response with
  | ok w => if method = lit "HEAD" then [] else w.body
  | Result.panic => []

/-- The body can reach the client: there is none, or the method and the status allow one and no `Content-Length`, in
    whatever spelling, announces less. -/
def returnsBody (method : GoString) (response : Response) : Bool :=
  response.body = [] ∨ method ≠ lit "HEAD" ∧ (100 ≤ response.statusCode ∧ response.statusCode ≤ 999) ∧
    (response.statusCode ≠ 101 ∧ response.statusCode ≠ 204 ∧ response.statusCode ≠ 304) ∧
    ∀ field ∈ (withoutHopByHopHeaders response.headers).entries,
      canonicalHeaderKey field.1 = lit "Content-Length" → ∀ value ∈ field.2, admitsLength response.body.length value

theorem mem_values_add {header : Headers} {name key value other : GoString}
    (hvalue : value ∈ (Header.add header name other).values key) :
    value ∈ header.values key ∨ canonicalHeaderKey name = canonicalHeaderKey key ∧ value = other := by
  by_cases hsame : canonicalHeaderKey key = canonicalHeaderKey name
  · rw [Header.values, Header.add, Map.lookup_insert_eq, if_pos hsame, Option.getD_some, List.mem_append,
      List.mem_singleton, Header.values, ← hsame] at hvalue
    exact hvalue.imp id fun heq => ⟨hsame.symm, heq⟩
  · rw [Header.values_add_ne header other hsame] at hvalue
    exact .inl hvalue

/-- A value in the header of the response was one in a field of this name. -/
theorem mem_values_addHeaders {key value : GoString} (fields : List (Sigma fun _ : GoString => List GoString))
    (header : Headers) (hvalue : value ∈ (addHeaders header fields).values key) :
    value ∈ header.values key ∨
      ∃ field ∈ fields, canonicalHeaderKey field.1 = canonicalHeaderKey key ∧ value ∈ field.2 := by
  have hadded : ∀ (name : GoString) (values : List GoString) (header : Headers),
      value ∈ (values.foldl (fun header value => Header.add header name value) header).values key →
        value ∈ header.values key ∨ canonicalHeaderKey name = canonicalHeaderKey key ∧ value ∈ values := by
    intro name values
    induction values with
    | nil => exact fun header hvalue => .inl hvalue
    | cons other values ih =>
      intro header hvalue
      obtain hvalue | ⟨hname, hmem⟩ := ih _ hvalue
      · obtain hvalue | ⟨hname, rfl⟩ := mem_values_add hvalue
        · exact .inl hvalue
        · exact .inr ⟨hname, List.mem_cons_self⟩
      · exact .inr ⟨hname, List.mem_cons_of_mem _ hmem⟩
  induction fields generalizing header with
  | nil => exact .inl hvalue
  | cons field fields ih =>
    obtain hvalue | ⟨other, hother, hname, hmem⟩ := ih _ hvalue
    · obtain hvalue | hfield := hadded field.1 field.2 header hvalue
      · exact .inl hvalue
      · exact .inr ⟨field, List.mem_cons_self, hfield⟩
    · exact .inr ⟨other, List.mem_cons_of_mem _ hother, hname, hmem⟩

/-- A body that can reach the client does, whole, whatever the order of the header fields. -/
theorem returned_of_returnsBody {fields : List (Sigma fun _ : GoString => List GoString)} {method : GoString}
    (horder : fields.Perm (withoutHopByHopHeaders response.headers).entries) (herror : response.error = [])
    (hreturns : returnsBody method response = true) : returned fields method response = response.body := by
  rw [returned]
  obtain hempty | ⟨hmethod, hrange, hallowed, hlengths⟩ := of_decide_eq_true hreturns
  · rw [hempty]
    split
    · next w hw =>
      rw [respond, if_neg (fun hne => hne herror), hempty] at hw
      obtain ⟨opened, hopened, hwritten⟩ := bind_eq_ok_iff.mp hw
      have hbody : w.body = [] :=
        (ResponseWriter.write_nil_body hwritten).trans (ResponseWriter.writeHeader_body hopened)
      rw [hbody, ite_self]
    · rfl
  · have hfits : admitsLength response.body.length ((addHeaders ∅ fields).get (lit "Content-Length")) = true := by
      rw [Header.get]
      cases hvalues : (addHeaders ∅ fields).values (lit "Content-Length") with
      | nil => rfl
      | cons value rest =>
        have hvalue : value ∈ (addHeaders ∅ fields).values (lit "Content-Length") := by
          rw [hvalues]
          exact List.mem_cons_self
        obtain hnone | ⟨field, hfield, hname, hmem⟩ := mem_values_addHeaders fields ∅ hvalue
        · cases hnone
        · exact hlengths field (horder.mem_iff.mp hfield) (hname.trans (by decide)) value hmem
    obtain ⟨opened, w, hopened, hwritten, hbody⟩ := ResponseWriter.body_of_writeHeader hrange hallowed hfits
    have hw : respond fields response = ok w := by
      rw [respond, if_neg (fun hne => hne herror)]
      exact bind_eq_ok_iff.mpr ⟨opened, hopened, hwritten⟩
    rw [hw]
    dsimp only
    rw [if_neg hmethod, hbody]

example : returned [] (lit "GET") { statusCode := 204, headers := ∅, body := lit "hello", error := [] } = [] := by
  decide

end myngrok.tunnels
