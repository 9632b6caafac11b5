import Myngrok.Pipeline.Concurrency

open golang Result websocket streams transition myngrok.protocol myngrok.gateway
open myngrok.gatewayclient hiding BinaryFrame responseBodyChunk requestBodyChunk parseBinaryFrame

namespace myngrok.pipeline

variable {n : Nat} {dec : Decoder} {localAddress : GoString} {capacity : Nat} {s : Responding n} {blank : Bool}
  {ws : List (Fin n)}

/-- A local service that answers at once, with an empty body. -/
def promptService : LocalService :=
  { newRequest := fun _ _ => none
    perform := fun _ => .ok { statusCode := 200, header := ∅, pieces := [], last := [], failure := none
                              fits := LocalAnswer.fits_empty } }

def crowdID (i : Nat) : GoString := lit "req_" ++ [UInt8.ofNat (0x30 + i / 10), UInt8.ofNat (0x30 + i % 10)]

def crowdJob (i : Nat) : Job :=
  { request := { id := crowdID i, method := lit "GET", path := lit "/", headers := ∅, body := [] }
    service := promptService }

/-- What its response starts with: the answer, or the error of a blank address. -/
def crowdStart (blank : Bool) (id : GoString) : HTTPResponsePayload :=
  if blank then
    { requestID := id, statusCode := 502, headers := ∅, contentLength := 0, error := lit "local address is required" }
  else { requestID := id, statusCode := 200, headers := ∅, contentLength := -1, error := [] }

def crowdDecoder (blank : Bool) : Decoder := .positional 6 Decoder.emptyRequest (crowdStart blank)

theorem jobStart_crowdJob (localAddress : GoString) :
    ∃ blank, ∀ i, jobStart (crowdJob i).request ((crowdJob i).outcome localAddress) = crowdStart blank (crowdID i) := by
  cases haddress : normalizeLocalAddress localAddress with
  | error err =>
    refine ⟨true, ?_⟩
    intro i
    simp only [Job.outcome, localExchange, haddress, normalizeLocalAddress_error haddress]
    rfl
  | ok address =>
    refine ⟨false, ?_⟩
    intro i
    simp only [Job.outcome, localExchange, haddress]
    rfl

theorem crowdStart_requestID (blank : Bool) (id : GoString) : (crowdStart blank id).requestID = id := by
  cases blank <;> rfl

theorem crowdID_plain {i : Nat} (hi : i ∈ List.range 33) : json.Plain (crowdID i) := by
  have hall : (List.range 33).all (fun i =>
      (crowdID i).all fun b => b.toNat < 0x80 ∧ json.escapeByte b = [b]) = true := by decide +kernel
  exact .of_all (List.all_eq_true.mp hall i hi)

theorem crowdDecoder_reads (blank : Bool) {i : Nat} (hi : i ∈ List.range 33) :
    (crowdDecoder blank).ReadsResponseStart (crowdStart blank (crowdID i)) ∧
      (crowdDecoder blank).ReadsResponseEnd (crowdID i) :=
  Decoder.positional_readsResponse rfl (crowdID_plain hi) (crowdStart_requestID blank _)

theorem crowdID_nodup : ((List.range 33).map crowdID).Nodup := by decide +kernel

theorem crowdID_fitsFrames (i : Nat) : FitsFrames (crowdID i) := by
  have hlength : (crowdID i).length = 6 := rfl
  refine ⟨List.cons_ne_nil _ _, ?_⟩
  rw [hlength]
  decide

/-- A worker takes a job, and the start of the response is written. -/
def crowdArrival (blank : Bool) (w : Fin n) : List (RespondingEvent n) :=
  let start := httpResponseStartMessage (crowdStart blank (crowdID w))
  [.take w (crowdJob w), .send w start, .writerTake start, .write start]

theorem run_crowdArrival (haddress : localAddress ≠ [])
    (hstart : ∀ i, jobStart (crowdJob i).request ((crowdJob i).outcome localAddress) = crowdStart blank (crowdID i))
    {w : Fin n} (hidle : s.workers w = none) (hqueue : s.outbound = []) (hwriter : s.writer = none)
    (hroom : s.toGateway.length < capacity) :
    ∃ workers, run (Responding.step dec localAddress capacity) s (crowdArrival blank w) = some
        { s with workers, toGateway := s.toGateway ++ [httpResponseStartMessage (crowdStart blank (crowdID w))] } ∧
      ∀ w', w' ≠ w → workers w' = s.workers w' := by
  have hmessages : ∃ rest, (crowdJob w).messages localAddress =
      httpResponseStartMessage (crowdStart blank (crowdID w)) :: rest := by
    rw [Job.messages_eq haddress (crowdID_fitsFrames w), jobMessages_eq, hstart]
    exact ⟨_, rfl⟩
  obtain ⟨rest, hmessages⟩ := hmessages
  refine ⟨Function.update s.workers w (some { job := crowdJob w, rest }), ?_, ?_⟩
  · simp [crowdArrival, run_cons, Responding.step, Responding.setWorker, hidle, hmessages, hqueue, hwriter, hroom,
      outboundQueueCapacity]
  · intro w' hne
    exact Function.update_of_ne hne _ _

/-- The workers of a list have each started a response, and nobody has read anything. -/
theorem run_crowd (haddress : localAddress ≠ [])
    (hstart : ∀ i, jobStart (crowdJob i).request ((crowdJob i).outcome localAddress) = crowdStart blank (crowdID i))
    (hnodup : ws.Nodup) (hroom : ws.length ≤ capacity) :
    ∃ workers, run (Responding.step dec localAddress capacity) Responding.start (ws.flatMap (crowdArrival blank)) = some
        { (Responding.start : Responding n) with
          workers, toGateway := ws.map fun w : Fin n => httpResponseStartMessage (crowdStart blank (crowdID w.val)) } ∧
      ∀ w ∉ ws, workers w = none := by
  induction ws using List.reverseRecOn with
  | nil => exact ⟨_, rfl, fun _ _ => rfl⟩
  | append_singleton ws w ih =>
    rw [List.length_append, List.length_singleton] at hroom
    rw [List.nodup_append] at hnodup
    obtain ⟨hnodup, _, hdistinct⟩ := hnodup
    have hnew : w ∉ ws := fun hmem => hdistinct w hmem w (List.mem_singleton_self w) rfl
    obtain ⟨workers, hrun, hidle⟩ := ih hnodup (Nat.le_of_succ_le hroom)
    have hfewer : (ws.map fun w : Fin n =>
        httpResponseStartMessage (crowdStart blank (crowdID w.val))).length < capacity := by
      rw [List.length_map]
      exact hroom
    obtain ⟨workers', hnext, hothers⟩ := @run_crowdArrival n dec localAddress capacity
      { (Responding.start : Responding n) with
        workers, toGateway := ws.map fun w : Fin n => httpResponseStartMessage (crowdStart blank (crowdID w.val)) }
      blank haddress hstart w (hidle w hnew) rfl rfl hfewer
    refine ⟨workers', ?_, ?_⟩
    · rw [List.flatMap_append, run_append, hrun, Option.bind_some, List.flatMap_singleton, hnext, List.map_append]
      rfl
    · intro w' hw'
      rw [List.mem_append, List.mem_singleton, not_or] at hw'
      rw [hothers w' hw'.2]
      exact hidle w' hw'.1

theorem jobs_crowd (blank : Bool) (ws : List (Fin n)) :
    jobs (ws.flatMap (crowdArrival blank)) = ws.map fun w : Fin n => crowdJob w.val := by
  induction ws with
  | nil => rfl
  | cons w ws ih =>
    rw [List.flatMap_cons, jobs, List.filterMap_append, ← jobs, ← jobs, ih]
    rfl

theorem written_crowd (blank : Bool) (ws : List (Fin n)) :
    written (ws.flatMap (crowdArrival blank)) =
      ws.map fun w : Fin n => httpResponseStartMessage (crowdStart blank (crowdID w.val)) := by
  induction ws with
  | nil => rfl
  | cons w ws ih =>
    rw [List.flatMap_cons, written, List.filterMap_append, ← written, ← written, ih]
    rfl

/-- Each of 33 workers has started a response, and none of the streams has ended. -/
theorem crowd_exceeds (hws : ws.map Fin.val = List.range 33) :
    ¬ OpenAtMost maxPendingResponseStreams
      ((written (ws.flatMap (crowdArrival blank))).map (responseItem (crowdDecoder blank))) := by
  have hitems : (written (ws.flatMap (crowdArrival blank))).map (responseItem (crowdDecoder blank)) =
      ((List.range 33).map fun i => (crowdID i, crowdStart blank (crowdID i))).map fun start =>
        .start start.1 start.2 := by
    rw [written_crowd, ← hws, List.map_map, List.map_map, List.map_map]
    refine List.map_congr_left ?_
    intro w hmem
    have hi : w.val ∈ List.range 33 := hws ▸ List.mem_map_of_mem hmem
    simp only [Function.comp_apply]
    rw [responseItem_start (crowdDecoder_reads blank hi).1, crowdStart_requestID]
  intro hbound
  rw [hitems] at hbound
  have hcount := hbound ((List.range 33).map crowdID) crowdID_nodup (by
    intro id hmem
    obtain ⟨i, hi, rfl⟩ := List.mem_map.mp hmem
    refine ⟨_, [], open_of_starts ?_ (List.mem_map.mpr ⟨i, hi, rfl⟩)⟩
    rw [List.map_map]
    exact crowdID_nodup)
  rw [List.length_map, List.length_range] at hcount
  exact absurd hcount (by decide)

theorem attributed_crowd
    (hstart : ∀ i, jobStart (crowdJob i).request ((crowdJob i).outcome localAddress) = crowdStart blank (crowdID i))
    (hws : ws.map Fin.val = List.range 33) :
    Attributed (crowdDecoder blank) localAddress (jobs (ws.flatMap (crowdArrival blank))) := by
  rw [jobs_crowd]
  constructor
  · have hids := crowdID_nodup
    rw [← hws, List.map_map] at hids
    rw [List.map_map]
    exact hids
  · intro job hmem
    obtain ⟨w, hw, rfl⟩ := List.mem_map.mp hmem
    have hi : w.val ∈ List.range 33 := hws ▸ List.mem_map_of_mem hw
    obtain ⟨hreads, hend⟩ := crowdDecoder_reads blank hi
    refine ⟨crowdID_fitsFrames w, ?_, hend⟩
    rw [hstart]
    exact hreads

theorem exists_crowd (hn : 33 ≤ n) : ∃ ws : List (Fin n), ws.Nodup ∧ ws.map Fin.val = List.range 33 := by
  refine ⟨(List.finRange n).take 33, (List.nodup_finRange n).sublist (List.take_sublist _ _), ?_⟩
  rw [List.map_take, List.map_coe_finRange_eq_range, List.take_range, Nat.min_eq_left hn]

/-- An accepted configuration keeps the number of response streams within what the gateway allows exactly when it asks
    for at most 32 concurrent requests, or has no local address. -/
theorem stream_limit_kept_iff {config : Config} (haccepted : config.maxConcurrent = .ok n) :
    KeepsStreamLimit config n ↔ config.localAddress = [] ∨ config.maxConcurrentRequests ≤ 32 := by
  rw [← config.maxConcurrent_le_iff haccepted]
  constructor
  · intro hkeeps
    by_contra hnot
    rw [not_or, not_le] at hnot
    obtain ⟨haddress, hmany⟩ := hnot
    obtain ⟨blank, hstart⟩ := jobStart_crowdJob config.localAddress
    obtain ⟨ws, hnodup, hws⟩ := exists_crowd hmany
    obtain ⟨workers, hrun, _⟩ := @run_crowd n (crowdDecoder blank) config.localAddress ws.length blank ws haddress hstart
      hnodup (Nat.le_refl _)
    have hpong : (crowdDecoder blank).ReadsPong := ⟨[], by cases blank <;> decide +kernel⟩
    obtain ⟨hbound, _⟩ := hkeeps _ _ _ _ hpong hrun (attributed_crowd hstart hws)
    exact crowd_exceeds hws (hbound _ List.prefix_rfl)
  · intro hcondition dec capacity events s hpong hrun hattributed
    have hbound : ∀ first, first <+: sent events →
        OpenAtMost maxPendingResponseStreams (first.map (responseItem dec)) := by
      intro first hfirst
      obtain haddress | hfew := hcondition
      · rw [haddress] at hrun hattributed
        exact openAtMost_of_no_address hpong hrun hattributed _ hfirst
      · intro ids hnodup hopen
        exact Nat.le_trans ((emission_of_run hpong hrun hattributed).2 first hfirst ids hnodup hopen) hfew
    refine ⟨fun first hfirst => hbound first (hfirst.trans (written_le_sent hrun)), ?_⟩
    intro answers message rest responses status hresponses hqueue
    refine ne_tooMany_of_openAtMost (assembled_of_handled hrun hresponses) ?_ answers status
    rw [← List.map_singleton, ← List.map_append]
    refine hbound _ ?_
    rw [Responding.fifo hrun, Responding.stream, hqueue]
    simp

/-- The configuration with the fewest workers that do not fit. -/
def crowdConfig : Config :=
  { gatewayURL := lit "wss://tunnel.example/agent", token := lit "tkn_1", localAddress := lit "8080"
    maxConcurrentRequests := 33 }

theorem stream_limit_kept_iff_default : KeepsStreamLimit { crowdConfig with maxConcurrentRequests := 0 } 16 :=
  (stream_limit_kept_iff (by decide)).mpr (.inr (by decide))

/-- The session loop takes what 33 workers have written. -/
def crowdRun : List (RespondingEvent 33) :=
  let start := fun i => httpResponseStartMessage (crowdStart false (crowdID i))
  (List.finRange 33).flatMap (crowdArrival false) ++
    (List.range 32).flatMap (fun i => [.read (start i), .place (start i), .inbound quietAnswers (start i)]) ++
    [.read (start 32), .place (start 32)]

/-- With 33 workers the gateway closes the session. -/
theorem accepted_config_closes_session :
    crowdConfig.maxConcurrent = .ok 33 ∧
    ∃ s responses message, run (Responding.step (crowdDecoder false) crowdConfig.localAddress 33) Responding.start
        crowdRun = some s ∧ Attributed (crowdDecoder false) crowdConfig.localAddress (jobs crowdRun) ∧
      s.responses = some responses ∧ s.readCh = [message] ∧
      serveInbound (crowdDecoder false) quietAnswers responses message =
        ok (.closed statusPolicyViolation (lit "too many response streams")) := by
  have hfacts : (run (Responding.step (crowdDecoder false) crowdConfig.localAddress 33) Responding.start crowdRun).any
      (fun s => s.readCh.length = 1 && s.responses.any fun responses => s.readCh.all fun message =>
        serveInbound (crowdDecoder false) quietAnswers responses message =
          ok (.closed statusPolicyViolation (lit "too many response streams"))) = true := by decide +kernel
  obtain ⟨s, hrun, hs⟩ := (Option.any_eq_true _ _).mp hfacts
  obtain ⟨hlength, hs⟩ := (Bool.and_eq_true _ _).mp hs
  obtain ⟨responses, hresponses, hclosed⟩ := (Option.any_eq_true _ _).mp hs
  obtain ⟨message, hqueue⟩ := List.length_eq_one_iff.mp (of_decide_eq_true hlength)
  have hmem : message ∈ s.readCh := by rw [hqueue]; exact List.mem_singleton_self message
  refine ⟨by decide, s, responses, message, hrun, ?_, hresponses, hqueue,
    of_decide_eq_true (List.all_eq_true.mp hclosed message hmem)⟩
  have hjobs : jobs crowdRun = jobs ((List.finRange 33).flatMap (crowdArrival false)) := by
    simp [crowdRun, jobs, RespondingEvent.job, List.filterMap_flatMap]
  rw [hjobs]
  exact attributed_crowd (fun _ => rfl) List.map_coe_finRange_eq_range

end myngrok.pipeline
