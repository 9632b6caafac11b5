import Myngrok.GatewayClient.LocalHttp
import Myngrok.Tunnels.ResponseHeaders

open golang http myngrok.protocol myngrok.tunnels

namespace myngrok.pipeline

variable {headers : Headers} {key : GoString}

theorem mem_withoutHopByHopHeaders : key ∈ withoutHopByHopHeaders headers ↔ key ∈ headers ∧ ¬Removed headers key := by
  obtain ⟨hremoved, hkept⟩ := lookup_withoutHopByHopHeaders headers key
  rw [← AList.lookup_isSome, ← AList.lookup_isSome]
  constructor
  · intro hmem
    have hnot : ¬Removed headers key := by
      intro h
      rw [hremoved h] at hmem
      cases hmem
    exact ⟨hkept hnot ▸ hmem, hnot⟩
  · rintro ⟨hmem, hnot⟩
    exact (hkept hnot).symm ▸ hmem

/-- A map in which nothing is to be deleted stays the same map. -/
theorem withoutHopByHopHeaders_eq_self (hclean : ∀ key ∈ headers, ¬Removed headers key) :
    withoutHopByHopHeaders headers = headers := by
  apply AList.ext
  rw [withoutHopByHopHeaders, Header.entries_foldl_del, List.filter_eq_self]
  intro field hfield
  have hmem : field.1 ∈ headers := AList.mem_keys.mpr (List.mem_keys_of_mem hfield)
  have hkept := hclean field.1 hmem
  rw [removed_iff_mem] at hkept
  exact decide_eq_true hkept

theorem removed_connection (headers : Headers) : Removed headers (lit "Connection") :=
  .inl ⟨lit "Connection", by decide, by decide⟩

/-- What one pass has left, a second one leaves: `Connection` is gone, and names nothing more. -/
theorem withoutHopByHopHeaders_idem (headers : Headers) :
    withoutHopByHopHeaders (withoutHopByHopHeaders headers) = withoutHopByHopHeaders headers := by
  apply withoutHopByHopHeaders_eq_self
  intro key hkey hremoved
  obtain ⟨_, hkept⟩ := mem_withoutHopByHopHeaders.mp hkey
  rcases hremoved with hfixed | ⟨values, hconnection, _⟩
  · exact hkept (.inl hfixed)
  · rw [(lookup_withoutHopByHopHeaders headers _).1 (removed_connection headers)] at hconnection
    cases hconnection

/-- The filters of both processes delete the fixed fields and those that `Connection` names, keep every other field with
    its values, and change nothing when they are applied again. -/
theorem hopByHop_filters_exact (headers : Headers) :
    (∀ filter ∈ [tunnels.withoutHopByHopHeaders, gatewayclient.withoutHopByHopHeaders],
      (∀ key, (Removed headers key → (filter headers).lookup key = none) ∧
        (¬Removed headers key → (filter headers).lookup key = headers.lookup key)) ∧
      filter (filter headers) = filter headers) ∧
    gatewayclient.withoutHopByHopHeaders (tunnels.withoutHopByHopHeaders headers) =
      tunnels.withoutHopByHopHeaders headers := by
  have hsame : gatewayclient.withoutHopByHopHeaders = tunnels.withoutHopByHopHeaders := rfl
  refine ⟨fun filter hfilter => ?_, withoutHopByHopHeaders_idem headers⟩
  have hfilter : filter = tunnels.withoutHopByHopHeaders := by
    rw [hsame] at hfilter
    simpa using hfilter
  subst hfilter
  exact ⟨lookup_withoutHopByHopHeaders headers, withoutHopByHopHeaders_idem headers⟩

section forwarded

variable {r : PublicRequest} {requestID : GoString}

/-- The headers of a public request when the agent passes it to the local service. -/
def forwardedHeaders (r : PublicRequest) (requestID : GoString) : Headers :=
  gatewayclient.withoutHopByHopHeaders (publicRequestHeaders r requestID)

/-- The fields that the gateway makes, with the values it gives them. -/
def gatewayFields (r : PublicRequest) (requestID : GoString) : List (GoString × GoString) :=
  [(lit "X-Forwarded-For", requestClientIP r), (lit "X-Forwarded-Host", r.host),
    (lit "X-Forwarded-Proto", if r.tls then lit "https" else lit "http"), (lit "X-Tunnel-Request-Id", requestID)]

def gatewayNames : List GoString :=
  [lit "X-Forwarded-For", lit "X-Forwarded-Host", lit "X-Forwarded-Proto", lit "X-Tunnel-Request-Id"]

theorem gatewayNames_eq (r : PublicRequest) (requestID : GoString) :
    (gatewayFields r requestID).map Prod.fst = gatewayNames := rfl

theorem gatewayNames_canonical : ∀ key ∈ gatewayNames,
    canonicalHeaderKey key = key ∧ key.all validHeaderFieldByte = true ∧
      ∀ name ∈ hopByHopHeaders, key ≠ canonicalHeaderKey name := by decide +kernel

/-- Header keys as net/http stores them. -/
def CanonicalKeys (headers : Headers) : Prop := ∀ key ∈ headers, canonicalHeaderKey key = key

/-- A field with one value, and with no other spelling beside it. -/
def OnlyValue (headers : Headers) (name value : GoString) : Prop :=
  headers.lookup name = some [value] ∧ ∀ key ∈ headers, strings.equalFold key name = true → key = name

theorem requestClientIP_ne_nil (r : PublicRequest) : requestClientIP r ≠ [] := by
  have hdefault : ∀ clientIP : GoString, (if clientIP = [] then lit "unknown" else clientIP) ≠ [] := by
    intro clientIP
    split
    · decide
    · next hclient => exact hclient
  exact hdefault _

theorem lookup_publicRequestHeaders (r : PublicRequest) (requestID key : GoString) :
    (publicRequestHeaders r requestID).lookup key =
      if key = lit "X-Tunnel-Request-Id" then some [requestID]
      else if key = lit "X-Forwarded-Proto" then some [if r.tls then lit "https" else lit "http"]
      else if key = lit "X-Forwarded-Host" then some [r.host]
      else if key = lit "X-Forwarded-For" then some [requestClientIP r]
      else if isForwarded key then none
      else (withoutHopByHopHeaders r.header).lookup key := by
  have hrequestID : canonicalHeaderKey (lit "X-Tunnel-Request-ID") = lit "X-Tunnel-Request-Id" := by decide
  have hproto : canonicalHeaderKey (lit "X-Forwarded-Proto") = lit "X-Forwarded-Proto" := by decide
  have hhost : canonicalHeaderKey (lit "X-Forwarded-Host") = lit "X-Forwarded-Host" := by decide
  have hfor : canonicalHeaderKey (lit "X-Forwarded-For") = lit "X-Forwarded-For" := by decide
  unfold publicRequestHeaders
  dsimp only
  rw [if_pos (requestClientIP_ne_nil r), Header.lookup_set, Header.lookup_set, Header.lookup_set, Header.lookup_set,
    hrequestID, hproto, hhost, hfor, Map.lookup_foldl_erase]
  congr 4
  -- The loop visits the keys that are there; one that is not has no value anyway.
  by_cases hforwarded : isForwarded key = true
  · rw [if_pos hforwarded]
    split
    · rfl
    · next hmem =>
      apply AList.lookup_eq_none.mpr
      intro hkey
      exact hmem (List.mem_filter.mpr ⟨AList.mem_keys.mp hkey, hforwarded⟩)
  · rw [if_neg hforwarded, if_neg]
    intro hmem
    exact hforwarded (List.mem_filter.mp hmem).2

/-- The keys are those that the gateway makes, and what it has let through. -/
theorem mem_publicRequestHeaders (hkey : key ∈ publicRequestHeaders r requestID) :
    key ∈ gatewayNames ∨ isForwarded key = false ∧ key ∈ r.header ∧ ¬Removed r.header key := by
  rw [← AList.lookup_isSome, lookup_publicRequestHeaders] at hkey
  simp only [gatewayNames, List.mem_cons, List.not_mem_nil, or_false]
  split at hkey
  · next hname => exact .inl (.inr (.inr (.inr hname)))
  split at hkey
  · next hname => exact .inl (.inr (.inr (.inl hname)))
  split at hkey
  · next hname => exact .inl (.inr (.inl hname))
  split at hkey
  · next hname => exact .inl (.inl hname)
  split at hkey
  · cases hkey
  · next hforwarded =>
    refine .inr ⟨Bool.eq_false_of_not_eq_true hforwarded, ?_⟩
    rw [AList.lookup_isSome] at hkey
    exact mem_withoutHopByHopHeaders.mp hkey

/-- No field is left for the agent to delete, whatever the client has named. -/
theorem forwardedHeaders_eq (r : PublicRequest) (requestID : GoString) :
    forwardedHeaders r requestID = publicRequestHeaders r requestID := by
  have hnamed : ∀ {key}, key ∈ publicRequestHeaders r requestID →
      ¬∃ name ∈ hopByHopHeaders, key = canonicalHeaderKey name := by
    rintro key hkey ⟨name, hname, heq⟩
    rcases mem_publicRequestHeaders hkey with hmade | ⟨_, _, hkept⟩
    · exact (gatewayNames_canonical key hmade).2.2 name hname heq
    · exact hkept (.inl ⟨name, hname, heq⟩)
  apply withoutHopByHopHeaders_eq_self
  rintro key hkey (hremoved | ⟨values, hconnection, _⟩)
  · exact hnamed hkey hremoved
  · have hmem : lit "Connection" ∈ publicRequestHeaders r requestID :=
      AList.lookup_isSome.mp (Option.isSome_of_eq_some hconnection)
    exact hnamed hmem ⟨lit "Connection", by decide, by decide⟩

theorem canonicalKeys_publicRequestHeaders (hcanonical : CanonicalKeys r.header) :
    CanonicalKeys (publicRequestHeaders r requestID) := by
  intro key hkey
  rcases mem_publicRequestHeaders hkey with hmade | ⟨_, hmem, _⟩
  · exact (gatewayNames_canonical key hmade).1
  · exact hcanonical key hmem

theorem onlyValue_gatewayFields (hcanonical : CanonicalKeys r.header) :
    ∀ field ∈ gatewayFields r requestID, OnlyValue (forwardedHeaders r requestID) field.1 field.2 := by
  rw [forwardedHeaders_eq]
  intro field hfield
  constructor
  · rw [lookup_publicRequestHeaders]
    simp only [gatewayFields, List.mem_cons, List.not_mem_nil, or_false] at hfield
    rcases hfield with rfl | rfl | rfl | rfl
    all_goals rfl
  · intro key hkey hfold
    have hmade : field.1 ∈ gatewayNames := gatewayNames_eq r requestID ▸ List.mem_map_of_mem hfield
    obtain ⟨hname, hbytes, _⟩ := gatewayNames_canonical field.1 hmade
    rw [← canonicalKeys_publicRequestHeaders hcanonical key hkey, ← hname]
    exact canonicalHeaderKey_eq_of_toLower hbytes (of_decide_eq_true hfold)

/-- Two requests that agree in what the gateway sees of the connection get the same fields from it, whatever their
    clients send; and no other field of this kind gets through. -/
theorem forwardedHeaders_noninterference {r₁ r₂ : PublicRequest} (requestID : GoString)
    (haddr : r₁.remoteAddr = r₂.remoteAddr) (hhost : r₁.host = r₂.host) (htls : r₁.tls = r₂.tls)
    (hcanonical₁ : CanonicalKeys r₁.header) (hcanonical₂ : CanonicalKeys r₂.header) :
    (∀ field ∈ gatewayFields r₁ requestID, OnlyValue (forwardedHeaders r₁ requestID) field.1 field.2 ∧
      OnlyValue (forwardedHeaders r₂ requestID) field.1 field.2) ∧
    ∀ r ∈ [r₁, r₂], ∀ key ∈ forwardedHeaders r requestID, isForwarded key = true →
      key ∈ [lit "X-Forwarded-For", lit "X-Forwarded-Host", lit "X-Forwarded-Proto"] := by
  have hfields : gatewayFields r₁ requestID = gatewayFields r₂ requestID := by
    rw [gatewayFields, gatewayFields, requestClientIP, requestClientIP, haddr, hhost, htls]
  constructor
  · intro field hfield
    exact ⟨onlyValue_gatewayFields hcanonical₁ field hfield,
      onlyValue_gatewayFields hcanonical₂ field (hfields ▸ hfield)⟩
  · intro r _ key hkey hforwarded
    rw [forwardedHeaders_eq] at hkey
    rcases mem_publicRequestHeaders hkey with hmade | ⟨hnot, _, _⟩
    · have hnames : ∀ key ∈ gatewayNames, isForwarded key = true →
          key ∈ [lit "X-Forwarded-For", lit "X-Forwarded-Host", lit "X-Forwarded-Proto"] := by decide
      exact hnames key hmade hforwarded
    · rw [hforwarded] at hnot
      cases hnot

def plainRequest : PublicRequest :=
  { method := lit "GET", requestURI := lit "/", header := ∅, host := lit "demo.tunnel.example",
    remoteAddr := lit "203.0.113.7:4711", tls := true, contentLength := 0, body := [] }

/-- A client that names the fields of the gateway, to have them deleted, and sends its own. -/
def meddlingRequest : PublicRequest :=
  { plainRequest with
    header := (∅ : Headers).insert (lit "Connection") [lit "X-Forwarded-For, x-tunnel-request-id"]
      |>.insert (lit "X-Forwarded-For") [lit "127.0.0.1"] |>.insert (lit "Forwarded") [lit "for=127.0.0.1"] }

theorem forwardedHeaders_of_meddling :
    meddlingRequest.header.keys = [lit "Forwarded", lit "X-Forwarded-For", lit "Connection"] ∧
      ∀ field ∈ gatewayFields plainRequest (lit "req_1"),
        OnlyValue (forwardedHeaders plainRequest (lit "req_1")) field.1 field.2 ∧
          OnlyValue (forwardedHeaders meddlingRequest (lit "req_1")) field.1 field.2 := by
  have hcanonical : CanonicalKeys meddlingRequest.header := by
    have hkeys : ∀ key ∈ meddlingRequest.header.keys, canonicalHeaderKey key = key := by decide
    intro key hkey
    exact hkeys key (AList.mem_keys.mp hkey)
  have hempty : CanonicalKeys plainRequest.header := fun key hkey => absurd hkey (AList.notMem_empty key)
  have hboth := @forwardedHeaders_noninterference plainRequest meddlingRequest (lit "req_1") rfl rfl rfl hempty hcanonical
  exact ⟨by decide, hboth.1⟩

end forwarded

end myngrok.pipeline
