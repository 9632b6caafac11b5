import Myngrok.Server.Handler

open golang http

namespace myngrok.server

/-- The handlers of the control plane's API. -/
def Route.api : Route → Bool
  | .auth | .agentToken | .agentConnect | .agents | .tunnels | .traffic => true
  | .metrics | .health | .readiness | .publicHandler => false

/-- The fields of the response when the layers hand it on or answer. -/
def Outcome.header : Outcome → Header
  | .handler _ _ header => header
  | .redirect _ header => header
  | .error _ _ header => header
  | .writeHeader _ header => header

def Request.origin (r : Request) : GoString := Header.get r.header (lit "Origin")

/-- What `securityHeaders` sets for the paths of the control plane. -/
def securityFields (tls : Bool) : List (GoString × GoString) :=
  [(lit "X-Content-Type-Options", lit "nosniff"), (lit "X-Frame-Options", lit "DENY"),
    (lit "Referrer-Policy", lit "no-referrer"),
    (lit "Permissions-Policy", lit "camera=(), geolocation=(), microphone=()"),
    (lit "Content-Security-Policy",
      lit "default-src 'none'; base-uri 'none'; frame-ancestors 'none'; form-action 'none'"),
    (lit "Cache-Control", lit "no-store")] ++
  if tls then [(lit "Strict-Transport-Security", lit "max-age=31536000")] else []

/-- What `cors` sets for an origin that is allowed, and for its preflight requests. -/
def allowing (origin : GoString) (w : Header) : Header :=
  ((w.set (lit "Access-Control-Allow-Origin") origin).set (lit "Access-Control-Allow-Credentials") (lit "true")).add
    (lit "Vary") (lit "Origin")

def preflight (origin : GoString) (w : Header) : Header :=
  (((allowing origin w).set (lit "Access-Control-Allow-Methods") (lit "GET, POST, DELETE, OPTIONS")).set
    (lit "Access-Control-Allow-Headers") (lit "Authorization, Content-Type")).set
      (lit "Access-Control-Max-Age") (lit "600")

def corsNames : List GoString :=
  [lit "Access-Control-Allow-Origin", lit "Access-Control-Allow-Credentials", lit "Vary",
    lit "Access-Control-Allow-Methods", lit "Access-Control-Allow-Headers", lit "Access-Control-Max-Age"]

variable {allowedOrigins : List GoString} {random : Option Bytes} {r : Request} {w : Header} {route : Route}
  {name : GoString}

theorem header_mux (r : Request) (w : Header) : (mux r w).header = w := by
  rw [mux]
  split <;> rfl

section

variable (allowedOrigins : List GoString) (r : Request) (w : Header)

/-- The ways `cors` can go. -/
inductive Cors : Outcome → Prop where
  | other (hother : strings.hasPrefix r.path (lit "/api/") = false) : Cors (mux r w)
  | plain (horigin : r.origin = []) : Cors (mux r w)
  | refused (hapi : strings.hasPrefix r.path (lit "/api/") = true) (horigin : r.origin ≠ [])
      (hrefused : r.origin ∉ allowedOrigins) {outcome : Outcome} (hheader : outcome.header = w)
      (hanswer : ∀ route request header, outcome ≠ .handler route request header) : Cors outcome
  | preflight (hapi : strings.hasPrefix r.path (lit "/api/") = true) (horigin : r.origin ≠ [])
      (hallowed : r.origin ∈ allowedOrigins) (hoptions : r.method = lit "OPTIONS") :
    Cors (.writeHeader 204 (preflight r.origin w))
  | allowed (hapi : strings.hasPrefix r.path (lit "/api/") = true) (horigin : r.origin ≠ [])
      (hallowed : r.origin ∈ allowedOrigins) (hoptions : r.method ≠ lit "OPTIONS") : Cors (mux r (allowing r.origin w))

end

theorem cors_cases (allowedOrigins : List GoString) (r : Request) (w : Header) :
    Cors allowedOrigins r w (cors allowedOrigins mux r w) := by
  rw [cors]
  dsimp only
  split
  · next hother => exact .other (by simpa using hother)
  next hapi =>
  rw [Bool.not_eq_true, Bool.not_eq_false'] at hapi
  split
  · next horigin => exact .plain horigin
  next horigin =>
  split
  · next hrefused =>
    split
    · refine .refused hapi horigin hrefused rfl fun _ _ _ hanswer => ?_
      cases hanswer
    · refine .refused hapi horigin hrefused rfl fun _ _ _ hanswer => ?_
      cases hanswer
  next hallowed =>
  rw [not_not] at hallowed
  split
  · next hoptions => exact .preflight hapi horigin hallowed hoptions
  · next hoptions => exact .allowed hapi horigin hallowed hoptions

/-- The fields that `requestID` and `securityHeaders` set. -/
def outerFields (random : Option Bytes) (r : Request) : Header :=
  let id := Header.get r.header requestIDHeader
  let id := if validRequestID id then id else newRequestID random
  (if secured r.path then securityFields r.tls else []).foldl (fun w field => w.set field.1 field.2)
    (Header.set ∅ requestIDHeader id)

theorem newHandler_eq (allowedOrigins : List GoString) (random : Option Bytes) (r : Request) :
    newHandler allowedOrigins random r ∅ = cors allowedOrigins mux r (outerFields random r) := by
  rw [newHandler, requestID, securityHeaders, outerFields]
  dsimp only
  split
  · cases r.tls with
    | true => rfl
    | false => rfl
  · rfl

/-- The patterns of the API are below `/api/`, and a path that matches one is too, however it is escaped. -/
theorem api_of_findHandler {method escapedPath : GoString} (hapi : route.api = true)
    (hfound : serveMux.findHandler method escapedPath = .handler route) :
    strings.hasPrefix (url.pathUnescape escapedPath) (lit "/api/") = true := by
  have hwhole : ∀ entry ∈ serveMux, entry.1.subtree = false → entry.2.api = true →
      lit "/api/" <+: strings.joinByte 0x2F entry.1.literals := by decide +kernel
  obtain ⟨entry, -, hfind, rfl⟩ := ServeMux.find_of_findHandler hfound
  obtain ⟨hmem, -, hmatches⟩ := ServeMux.find_spec hfind
  rw [← joinByte_pathSegments]
  refine List.isPrefixOf_iff_prefix.mpr ?_
  cases hsubtree : entry.1.subtree with
  | false =>
    rw [← entry.1.eq_of_matchesPath hsubtree hmatches]
    exact hwhole entry hmem hsubtree hapi
  | true =>
    have hnot : entry ≠ publicEntry := by
      rintro rfl
      cases hapi
    obtain ⟨⟨others, hothers⟩, -⟩ := entry.1.prefix_of_matchesPath hsubtree hmatches
    rw [← hothers]
    exact (subtree_api entry hmem hsubtree hnot).trans (strings.prefix_joinByte 0x2F _ others)

theorem cors_api_iff (hapi : route.api = true) :
    (∃ header, cors allowedOrigins mux r w = .handler route r header) ↔
      serveMux.findHandler r.method r.escapedPath = .handler route ∧
        (r.origin = [] ∨ r.origin ∈ allowedOrigins ∧ r.method ≠ lit "OPTIONS") := by
  have hcors := cors_cases allowedOrigins r w
  generalize cors allowedOrigins mux r w = outcome at hcors
  constructor
  · rintro ⟨header, rfl⟩
    generalize houtcome : Outcome.handler route r header = outcome at hcors
    cases hcors with
    | other hother =>
      have hfound := (mux_handler_iff.mp houtcome.symm).1
      have hpath := api_of_findHandler hapi hfound
      rw [Request.path, hpath] at hother
      cases hother
    | plain horigin => exact ⟨(mux_handler_iff.mp houtcome.symm).1, .inl horigin⟩
    | refused _ _ _ _ hanswer => exact absurd houtcome.symm (hanswer _ _ _)
    | preflight => cases houtcome
    | allowed _ _ hallowed hoptions => exact ⟨(mux_handler_iff.mp houtcome.symm).1, .inr ⟨hallowed, hoptions⟩⟩
  · rintro ⟨hfound, hgate⟩
    cases hcors with
    | other => exact ⟨w, mux_handler_iff.mpr ⟨hfound, rfl, rfl⟩⟩
    | plain => exact ⟨w, mux_handler_iff.mpr ⟨hfound, rfl, rfl⟩⟩
    | refused _ horigin hrefused =>
      obtain hnone | ⟨hallowed, -⟩ := hgate
      · exact absurd hnone horigin
      · exact absurd hallowed hrefused
    | preflight _ horigin _ hoptions =>
      obtain hnone | ⟨-, hnot⟩ := hgate
      · exact absurd hnone horigin
      · exact absurd hoptions hnot
    | allowed => exact ⟨_, mux_handler_iff.mpr ⟨hfound, rfl, rfl⟩⟩

theorem values_allowing (origin : GoString) (w : Header)
    (hname : ∀ other ∈ corsNames, canonicalHeaderKey name ≠ canonicalHeaderKey other) :
    (allowing origin w).values name = w.values name := by
  rw [allowing, Header.values_add_ne _ _ (hname _ (by decide)), Header.values_set_ne _ _ (hname _ (by decide)),
    Header.values_set_ne _ _ (hname _ (by decide))]

theorem values_preflight (origin : GoString) (w : Header)
    (hname : ∀ other ∈ corsNames, canonicalHeaderKey name ≠ canonicalHeaderKey other) :
    (preflight origin w).values name = w.values name := by
  rw [preflight, Header.values_set_ne _ _ (hname _ (by decide)), Header.values_set_ne _ _ (hname _ (by decide)),
    Header.values_set_ne _ _ (hname _ (by decide)), values_allowing origin w hname]

/-- `cors` leaves the fields alone that are not its own. -/
theorem values_cors (hname : ∀ other ∈ corsNames, canonicalHeaderKey name ≠ canonicalHeaderKey other) :
    (cors allowedOrigins mux r w).header.values name = w.values name := by
  have hcors := cors_cases allowedOrigins r w
  generalize cors allowedOrigins mux r w = outcome at hcors
  cases hcors with
  | other => rw [header_mux]
  | plain => rw [header_mux]
  | refused _ _ _ hheader => rw [hheader]
  | preflight => exact values_preflight r.origin w hname
  | allowed => rw [header_mux, values_allowing r.origin w hname]

theorem values_allowOrigin (hnone : w.values (lit "Access-Control-Allow-Origin") = []) :
    (cors allowedOrigins mux r w).header.values (lit "Access-Control-Allow-Origin") =
      if strings.hasPrefix r.path (lit "/api/") = true ∧ r.origin ≠ [] ∧ r.origin ∈ allowedOrigins then [r.origin]
      else [] := by
  have hallowing : (allowing r.origin w).values (lit "Access-Control-Allow-Origin") = [r.origin] := by
    rw [allowing]
    simp (disch := decide) only [Header.values_add_ne, Header.values_set_ne, Header.values_set_self]
  have hcors := cors_cases allowedOrigins r w
  generalize cors allowedOrigins mux r w = outcome at hcors
  cases hcors with
  | other hother =>
    rw [header_mux, hnone, if_neg]
    rintro ⟨hapi, -⟩
    rw [hapi] at hother
    cases hother
  | plain horigin =>
    rw [header_mux, hnone, if_neg]
    rintro ⟨-, hne, -⟩
    exact hne horigin
  | refused _ _ hrefused hheader =>
    rw [hheader, hnone, if_neg]
    rintro ⟨-, -, hallowed⟩
    exact hrefused hallowed
  | preflight hapi horigin hallowed =>
    rw [if_pos ⟨hapi, horigin, hallowed⟩, Outcome.header, preflight]
    simp (disch := decide) only [Header.values_set_ne, hallowing]
  | allowed hapi horigin hallowed => rw [if_pos ⟨hapi, horigin, hallowed⟩, header_mux, hallowing]

theorem values_outerFields (random : Option Bytes) (r : Request)
    (hid : canonicalHeaderKey name ≠ canonicalHeaderKey requestIDHeader) (hother : secured r.path = true →
      ∀ field ∈ securityFields r.tls, canonicalHeaderKey name ≠ canonicalHeaderKey field.1) :
    (outerFields random r).values name = [] := by
  rw [outerFields, Header.values_foldl_set_ne, Header.values_set_ne _ _ hid]
  · rfl
  · split
    · next hsecured => exact hother hsecured
    · exact nofun

/-- A handler of the API is called exactly for the requests that the mux has for it and that have no origin, or an
    allowed one and are no preflight. The response names an origin as allowed exactly if it is, on the paths of the API;
    and every answer has the security fields on the paths of the control plane, and on no other. -/
theorem control_plane_gate (allowedOrigins : List GoString) (random : Option Bytes) (r : Request) :
    let outcome := newHandler allowedOrigins random r ∅
    (∀ route : Route, route.api = true →
      ((∃ header, outcome = .handler route r header) ↔
        serveMux.findHandler r.method r.escapedPath = .handler route ∧
          (r.origin = [] ∨ r.origin ∈ allowedOrigins ∧ r.method ≠ lit "OPTIONS"))) ∧
    outcome.header.values (lit "Access-Control-Allow-Origin") =
      (if strings.hasPrefix r.path (lit "/api/") = true ∧ r.origin ≠ [] ∧ r.origin ∈ allowedOrigins then [r.origin]
      else []) ∧
    ∀ field ∈ securityFields r.tls, outcome.header.values field.1 = if secured r.path then [field.2] else [] := by
  intro outcome
  have houtcome : outcome = cors allowedOrigins mux r (outerFields random r) := newHandler_eq allowedOrigins random r
  have hnames : ∀ tls, ∀ field ∈ securityFields tls,
      canonicalHeaderKey field.1 ≠ canonicalHeaderKey requestIDHeader ∧
      ∀ other ∈ corsNames, canonicalHeaderKey field.1 ≠ canonicalHeaderKey other := by decide +kernel
  have hnodup : ∀ tls, ((securityFields tls).map fun field => canonicalHeaderKey field.1).Nodup := by decide +kernel
  rw [houtcome]
  refine ⟨fun route hapi => cors_api_iff hapi, values_allowOrigin ?_, fun field hfield => ?_⟩
  · refine values_outerFields random r (by decide) fun _ field hfield heq => ?_
    exact (hnames r.tls field hfield).2 (lit "Access-Control-Allow-Origin") (by decide) heq.symm
  · rw [values_cors (hnames r.tls field hfield).2]
    split
    · next hsecured =>
      rw [outerFields, if_pos hsecured]
      exact Header.values_foldl_set _ (hnodup r.tls) hfield
    · next hnot => exact values_outerFields random r (hnames r.tls field hfield).1 fun hsecured => absurd hsecured hnot

end myngrok.server
