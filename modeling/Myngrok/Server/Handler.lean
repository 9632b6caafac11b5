import Myngrok.Go.ServeMux
import Myngrok.Tunnels.PublicHandler

open golang myngrok.tunnels

namespace myngrok.server

/-- A request as the composed handler gets it: what the public handler reads of it, and `URL.EscapedPath()`. -/
structure Request extends PublicRequest where
  escapedPath : GoString
  deriving DecidableEq

/-- `URL.Path`. -/
def Request.path (r : Request) : GoString := url.pathUnescape r.escapedPath

/-- The handlers that `NewHandler` is given or has of its own. -/
inductive Route where
  | metrics
  | health
  | readiness
  | auth
  | agentToken
  | agentConnect
  | agents
  | tunnels
  | traffic
  | publicHandler
  deriving DecidableEq

/-- How far a request gets: one of the handlers is called, with the fields that the layers around it have put into the
    response by then, or a layer answers. -/
inductive Outcome where
  | handler (route : Route) (request : Request) (header : http.Header)
  | redirect (path : GoString) (header : http.Header)
  | error (status : Nat) (text : GoString) (header : http.Header)
  | writeHeader (status : Nat) (header : http.Header)
  deriving DecidableEq

abbrev Handler := Request → http.Header → Outcome

def serveMux : http.ServeMux Route :=
  [(⟨lit "GET", lit "/metrics"⟩, .metrics),
    (⟨lit "GET", lit "/health/live"⟩, .health),
    (⟨lit "GET", lit "/health/ready"⟩, .readiness),
    (⟨[], lit "/api/v1/auth/"⟩, .auth),
    (⟨[], lit "/api/v1/agent-tokens"⟩, .agentToken),
    (⟨[], lit "/api/v1/agent-tokens/"⟩, .agentToken),
    (⟨[], lit "/api/v1/agent/connect"⟩, .agentConnect),
    (⟨[], lit "/api/v1/agents"⟩, .agents),
    (⟨[], lit "/api/v1/tunnels"⟩, .tunnels),
    (⟨[], lit "/api/v1/traffic"⟩, .traffic),
    (⟨[], lit "/"⟩, .publicHandler)]

/-- `ServeMux.ServeHTTP`. -/
def mux : Handler := fun r w =>
  match serveMux.findHandler r.method r.escapedPath with
  | .handler route => .handler route r w
  | .redirect path => .redirect path w
  | .notFound => .error 404 (lit "404 page not found") w

def cors (allowedOrigins : List GoString) (next : Handler) : Handler := fun r w =>
  if !strings.hasPrefix r.path (lit "/api/") then next r w
  else
    let origin := http.Header.get r.header (lit "Origin")
    if origin = [] then next r w
    else if origin ∉ allowedOrigins then
      if r.method = lit "OPTIONS" then .writeHeader 403 w
      else .error 403 (lit "origin is not allowed") w
    else
      let w := w.set (lit "Access-Control-Allow-Origin") origin
      let w := w.set (lit "Access-Control-Allow-Credentials") (lit "true")
      let w := w.add (lit "Vary") (lit "Origin")
      if r.method = lit "OPTIONS" then
        let w := w.set (lit "Access-Control-Allow-Methods") (lit "GET, POST, DELETE, OPTIONS")
        let w := w.set (lit "Access-Control-Allow-Headers") (lit "Authorization, Content-Type")
        let w := w.set (lit "Access-Control-Max-Age") (lit "600")
        .writeHeader 204 w
      else next r w

/-- The paths that `securityHeaders` takes for the control plane's. -/
def secured (path : GoString) : Bool :=
  strings.hasPrefix path (lit "/api/") || path = lit "/health/live" || path = lit "/health/ready"

def securityHeaders (next : Handler) : Handler := fun r w =>
  if secured r.path then
    let w := w.set (lit "X-Content-Type-Options") (lit "nosniff")
    let w := w.set (lit "X-Frame-Options") (lit "DENY")
    let w := w.set (lit "Referrer-Policy") (lit "no-referrer")
    let w := w.set (lit "Permissions-Policy") (lit "camera=(), geolocation=(), microphone=()")
    let w := w.set (lit "Content-Security-Policy")
      (lit "default-src 'none'; base-uri 'none'; frame-ancestors 'none'; form-action 'none'")
    let w := w.set (lit "Cache-Control") (lit "no-store")
    let w := if r.tls then w.set (lit "Strict-Transport-Security") (lit "max-age=31536000") else w
    next r w
  else next r w

def requestIDHeader : GoString := lit "X-Request-ID"

/-- `random` is what `rand.Read` filled in, if it did not fail. -/
def newRequestID (random : Option Bytes) : GoString :=
  match random with
  | none => lit "req_unavailable"
  | some bytes => lit "req_" ++ hex.encodeToString bytes

def validRequestID (id : GoString) : Bool :=
  8 ≤ id.length && id.length ≤ 128 && id.all fun b =>
    utf8.within 0x61 0x7A b || utf8.within 0x41 0x5A b || utf8.within 0x30 0x39 b || b = 0x2D || b = 0x5F

def requestID (random : Option Bytes) (next : Handler) : Handler := fun r w =>
  let id := http.Header.get r.header requestIDHeader
  let id := if validRequestID id then id else newRequestID random
  next r (w.set requestIDHeader id)

/-- `requestLog` and `Metrics.Middleware`, which stand in between, hand on the request and the response as they are:
    they write a log line and count. -/
def newHandler (corsAllowedOrigins : List GoString) (random : Option Bytes) : Handler :=
  requestID random (securityHeaders (cors corsAllowedOrigins mux))

/-- The fields that `securityHeaders` and `cors` set. -/
def controlPlaneHeaders : List GoString :=
  [lit "X-Content-Type-Options", lit "X-Frame-Options", lit "Referrer-Policy", lit "Permissions-Policy",
    lit "Content-Security-Policy", lit "Cache-Control", lit "Strict-Transport-Security",
    lit "Access-Control-Allow-Origin", lit "Access-Control-Allow-Credentials", lit "Vary",
    lit "Access-Control-Allow-Methods", lit "Access-Control-Allow-Headers", lit "Access-Control-Max-Age"]

/-- The request comes to the public handler as it was sent, with nothing of the control plane's in the response. -/
def Outcome.Untouched (r : Request) (outcome : Outcome) : Prop :=
  ∃ w, outcome = .handler .publicHandler r w ∧ ∀ name ∈ controlPlaneHeaders, w.values name = []

/-- The request stands for the tunnel: the public handler that gets it serves no other. -/
def ServedBy (baseDomain : GoString) (registry : Registry) (tunnel : ActiveTunnel) (r : Request)
    (outcome : Outcome) : Prop :=
  outcome.Untouched r ∧ ∀ limiter now random,
    let routed := (route baseDomain registry limiter r.toPublicRequest now random).1
    routed ≠ .error notFound ∧ ∀ h, routed = .ok h → h.tunnel = tunnel ∧ h.request = r.toPublicRequest

/-- Paths that no layer takes for the control plane's, in the form in which they are matched: CONNECT is matched as it
    stands, any other path has to be clean. -/
def Tunnelled (r : Request) : Prop :=
  secured r.path = false ∧
    ¬(r.path = lit "/metrics" ∧ (r.method = lit "GET" ∨ r.method = lit "HEAD")) ∧
      if r.method = lit "CONNECT" then r.escapedPath.head? = some 0x2F
      else http.cleanPath r.escapedPath = r.escapedPath

instance (r : Request) : Decidable (Tunnelled r) := inferInstanceAs (Decidable (_ ∧ _ ∧ _))

section patterns

open http

def publicEntry : Pattern × Route := (⟨[], lit "/"⟩, .publicHandler)

theorem public_mem : publicEntry ∈ serveMux := by decide

theorem eq_publicEntry : ∀ entry ∈ serveMux, entry.2 = .publicHandler → entry = publicEntry := by decide +kernel

/-- The whole paths that are registered are the control plane's. -/
theorem whole_control : ∀ entry ∈ serveMux, entry.1.subtree = false →
    secured (strings.joinByte 0x2F entry.1.literals) = true ∨
      (strings.joinByte 0x2F entry.1.literals = lit "/metrics" ∧ entry.1.method = lit "GET") := by decide +kernel

theorem whole_last : ∀ entry ∈ serveMux, entry.1.subtree = false → entry.1.literals.getLast? ≠ some [] := by
  decide +kernel

/-- So are those below which everything is registered, but for the root. -/
theorem subtree_api : ∀ entry ∈ serveMux, entry.1.subtree = true → entry ≠ publicEntry →
    lit "/api/" <+: strings.joinByte 0x2F entry.1.literals := by decide +kernel

variable {entry : Pattern × Route}

theorem secured_of_subtree {segments : List GoString} (hmem : entry ∈ serveMux) (hsubtree : entry.1.subtree = true)
    (hnot : entry ≠ publicEntry) (hfront : entry.1.literals <+: segments) :
    secured (strings.joinByte 0x2F segments) = true := by
  obtain ⟨others, rfl⟩ := hfront
  have hapi := (subtree_api entry hmem hsubtree hnot).trans (strings.prefix_joinByte 0x2F _ others)
  have hhas : strings.hasPrefix (strings.joinByte 0x2F (entry.1.literals ++ others)) (lit "/api/") = true :=
    List.isPrefixOf_iff_prefix.mpr hapi
  rw [secured, hhas]
  rfl

variable {method escapedPath : GoString}

section

variable (hsecured : secured (url.pathUnescape escapedPath) = false)

include hsecured

theorem find_public
    (hmetrics : ¬(url.pathUnescape escapedPath = lit "/metrics" ∧ (method = lit "GET" ∨ method = lit "HEAD")))
    (hrooted : escapedPath.head? = some 0x2F) : serveMux.find method (pathSegments escapedPath) = some publicEntry := by
  have hmatches : publicEntry.1.matchesPath (pathSegments escapedPath) = true := by
    obtain ⟨rest, rfl⟩ := List.head?_eq_some_iff.mp hrooted
    rw [pathSegments_slash]
    exact publicEntry.1.matchesPath_of_literals rfl (List.prefix_append [[]] _)
      (Nat.succ_lt_succ (List.length_pos_iff.mpr (pathSegments_ne_nil rest)))
  refine ServeMux.find_eq_of_unique public_mem rfl hmatches ?_
  intro other hmem hallows hother
  by_contra hnot
  cases hsubtree : other.1.subtree with
  | true =>
    have hpath := secured_of_subtree hmem hsubtree hnot (other.1.prefix_of_matchesPath hsubtree hother).1
    rw [joinByte_pathSegments, hsecured] at hpath
    cases hpath
  | false =>
    have hwhole := whole_control other hmem hsubtree
    rw [other.1.eq_of_matchesPath hsubtree hother, joinByte_pathSegments, hsecured] at hwhole
    obtain hfalse | ⟨hpath, hget⟩ := hwhole
    · cases hfalse
    · refine hmetrics ⟨hpath, ?_⟩
      rcases hallows with hany | hown | ⟨-, hhead⟩
      · rw [hget] at hany
        cases hany
      · exact .inl (hown.symm.trans hget)
      · exact .inr hhead

/-- No pattern spells out such a path with a slash added. -/
theorem not_exactMatch_slashed (hrooted : escapedPath.head? = some 0x2F) :
    (serveMux.find method (pathSegments (escapedPath ++ lit "/"))).any
      (fun entry => entry.1.exactMatch (escapedPath ++ lit "/")) = false := by
  rw [Option.any_eq_false]
  intro entry hfound
  obtain ⟨hmem, -, hmatches⟩ := ServeMux.find_spec hfound
  rw [pathSegments_append_slash] at hmatches
  cases hsubtree : entry.1.subtree with
  | false =>
    -- A path that ends in a slash is none of the whole ones.
    refine absurd ?_ (whole_last entry hmem hsubtree)
    rw [entry.1.eq_of_matchesPath hsubtree hmatches, List.getLast?_concat]
  | true =>
    obtain ⟨hfront, hlength⟩ := entry.1.prefix_of_matchesPath hsubtree hmatches
    by_cases hpublic : entry = publicEntry
    · -- The root is spelled out by the path `/` alone.
      obtain ⟨rest, rfl⟩ := List.head?_eq_some_iff.mp hrooted
      have hrest := List.length_pos_iff.mpr (strings.splitByte_ne_nil 0x2F rest)
      have hsplit := congrArg List.length (strings.splitByte_append 0x2F (0x2F :: rest))
      rw [strings.splitByte_separator, List.length_append, List.length_cons, List.length_singleton] at hsplit
      have hsegments : publicEntry.1.segments.length = 2 := rfl
      rw [hpublic, Pattern.exactMatch, show lit "/" = [0x2F] from rfl, hsplit, hsegments, Bool.or_eq_false_iff,
        Bool.and_eq_false_iff]
      exact ⟨rfl, .inr (decide_eq_false (by omega))⟩
    · rw [List.length_append, List.length_singleton] at hlength
      have hshort := List.prefix_of_prefix_length_le hfront (List.prefix_append _ _) (Nat.le_of_lt_succ hlength)
      have hpath := secured_of_subtree hmem hsubtree hpublic hshort
      rw [joinByte_pathSegments, hsecured] at hpath
      cases hpath

theorem matchOrRedirect_public
    (hmetrics : ¬(url.pathUnescape escapedPath = lit "/metrics" ∧ (method = lit "GET" ∨ method = lit "HEAD")))
    (hrooted : escapedPath.head? = some 0x2F) :
    serveMux.matchOrRedirect method escapedPath = .handler .publicHandler := by
  rw [ServeMux.matchOrRedirect, find_public hsecured hmetrics hrooted]
  split
  · next hredirect =>
    obtain ⟨-, -, -, hexact⟩ := hredirect
    rw [not_exactMatch_slashed hsecured hrooted] at hexact
    cases hexact
  · rfl

end

/-- The metrics are served for their path, whatever the host. -/
theorem find_metrics (hmethod : method = lit "GET" ∨ method = lit "HEAD")
    (hpath : url.pathUnescape escapedPath = lit "/metrics") (hrooted : escapedPath.head? = some 0x2F) :
    ∃ entry, serveMux.find method (pathSegments escapedPath) = some entry ∧ entry.2 = .metrics := by
  obtain ⟨rest, rfl⟩ := List.head?_eq_some_iff.mp hrooted
  have hrest : url.pathUnescape rest = lit "metrics" :=
    (List.cons.inj ((url.pathUnescape_cons (by decide) rest).symm.trans hpath)).2
  have hsegments : pathSegments rest = [lit "metrics"] :=
    strings.eq_singleton_of_joinByte ((joinByte_pathSegments rest).trans hrest) (by decide) (pathSegments_ne_nil rest)
  rw [pathSegments_slash, hsegments]
  rcases hmethod with rfl | rfl
  · exact ⟨(⟨lit "GET", lit "/metrics"⟩, .metrics), by decide, rfl⟩
  · exact ⟨(⟨lit "GET", lit "/metrics"⟩, .metrics), by decide, rfl⟩

/-- A path that is not rooted is nobody's. -/
theorem not_public_of_unrooted (hrooted : escapedPath.head? ≠ some 0x2F)
    (hfound : serveMux.find method (pathSegments escapedPath) = some entry) : entry.2 ≠ .publicHandler := by
  intro hpublic
  obtain ⟨hmem, -, hmatches⟩ := ServeMux.find_spec hfound
  obtain rfl := eq_publicEntry entry hmem hpublic
  obtain ⟨hfront, hlength⟩ := publicEntry.1.prefix_of_matchesPath rfl hmatches
  cases escapedPath with
  | nil => exact absurd hlength (by decide)
  | cons b rest =>
    obtain ⟨first, others, hsegments, hfirst⟩ := head_pathSegments (fun hb => hrooted (congrArg some hb)) rest
    rw [hsegments] at hfront
    exact hfirst (List.cons_prefix_cons.mp hfront).1.symm

/-- Which requests the mux gives to the public handler, of those that no layer before it takes for the control
    plane's. -/
theorem findHandler_public_iff (hsecured : secured (url.pathUnescape escapedPath) = false) :
    serveMux.findHandler method escapedPath = .handler .publicHandler ↔
      ¬(url.pathUnescape escapedPath = lit "/metrics" ∧ (method = lit "GET" ∨ method = lit "HEAD")) ∧
        if method = lit "CONNECT" then escapedPath.head? = some 0x2F else cleanPath escapedPath = escapedPath := by
  constructor
  · intro hhandler
    obtain ⟨entry, hform, hfound, hpublic⟩ := ServeMux.find_of_findHandler hhandler
    have hrooted : escapedPath.head? = some 0x2F := by
      by_contra hnot
      exact not_public_of_unrooted hnot hfound hpublic
    refine ⟨?_, ?_⟩
    · rintro ⟨hpath, hmethod⟩
      obtain ⟨other, hother, hmetrics⟩ := find_metrics hmethod hpath hrooted
      rw [hfound] at hother
      cases hother
      rw [hpublic] at hmetrics
      cases hmetrics
    · split
      · exact hrooted
      · next hmethod => exact hform hmethod
  · rintro ⟨hmetrics, hform⟩
    by_cases hmethod : method = lit "CONNECT"
    · rw [if_pos hmethod] at hform
      rw [ServeMux.findHandler, if_pos hmethod]
      exact matchOrRedirect_public hsecured hmetrics hform
    · rw [if_neg hmethod] at hform
      rw [ServeMux.findHandler_of_clean hmethod hform]
      exact matchOrRedirect_public hsecured hmetrics (hform ▸ head_cleanPath escapedPath)

end patterns

section layers

open http

variable {allowedOrigins : List GoString} {random : Option Bytes} {r request : Request} {w header : Header}
  {route : Route}

theorem mux_handler_iff :
    mux r w = .handler route request header ↔
      serveMux.findHandler r.method r.escapedPath = .handler route ∧ request = r ∧ header = w := by
  rw [mux]
  split
  · next found hfound =>
    rw [hfound, Outcome.handler.injEq, ServeMux.Selection.handler.injEq]
    exact ⟨fun ⟨hroute, hr, hw⟩ => ⟨hroute, hr.symm, hw.symm⟩, fun ⟨hroute, hr, hw⟩ => ⟨hroute, hr.symm, hw.symm⟩⟩
  · next hfound => simp [hfound]
  · next hfound => simp [hfound]

/-- `cors` takes nothing out of the response that `securityHeaders` has put in. -/
theorem values_of_cors (hhandler : cors allowedOrigins mux r w = .handler route request header) :
    header.values (lit "X-Content-Type-Options") = w.values (lit "X-Content-Type-Options") := by
  rw [cors] at hhandler
  dsimp only at hhandler
  split at hhandler
  · rw [(mux_handler_iff.mp hhandler).2.2]
  · split at hhandler
    · rw [(mux_handler_iff.mp hhandler).2.2]
    · split at hhandler
      · split at hhandler
        · cases hhandler
        · cases hhandler
      · split at hhandler
        · cases hhandler
        · rw [(mux_handler_iff.mp hhandler).2.2]
          simp (disch := decide) only [Header.values_add_ne, Header.values_set_ne]

/-- Every answer for a path of the control plane's carries its fields. -/
theorem values_of_secured (hsecured : secured r.path = true)
    (hhandler : securityHeaders (cors allowedOrigins mux) r w = .handler route request header) :
    header.values (lit "X-Content-Type-Options") = [lit "nosniff"] := by
  rw [securityHeaders, if_pos hsecured] at hhandler
  rw [values_of_cors hhandler]
  split
  · simp (disch := decide) only [Header.values_set_ne, Header.values_set_self]
  · simp (disch := decide) only [Header.values_set_ne, Header.values_set_self]

theorem newHandler_of_not_secured (hsecured : secured r.path = false) :
    ∃ id, newHandler allowedOrigins random r w = mux r (w.set requestIDHeader id) := by
  have hapi : strings.hasPrefix r.path (lit "/api/") = false := by
    rw [secured, Bool.or_eq_false_iff, Bool.or_eq_false_iff] at hsecured
    exact hsecured.1.1
  have hlayers : securityHeaders (cors allowedOrigins mux) r = mux r := by
    funext w
    rw [securityHeaders, hsecured, if_neg Bool.false_ne_true, cors, hapi]
    rfl
  rw [newHandler, requestID, hlayers]
  exact ⟨_, rfl⟩

theorem values_requestID (id : GoString) :
    ∀ name ∈ controlPlaneHeaders, (Header.set ∅ requestIDHeader id).values name = [] := by
  have hnames : ∀ name ∈ controlPlaneHeaders, canonicalHeaderKey name ≠ canonicalHeaderKey requestIDHeader := by
    decide +kernel
  intro name hname
  rw [Header.values_set_ne ∅ id (hnames name hname)]
  rfl

end layers

theorem untouched_iff (allowedOrigins : List GoString) (random : Option Bytes) (r : Request) :
    (newHandler allowedOrigins random r ∅).Untouched r ↔ Tunnelled r := by
  cases hsecured : secured r.path with
  | true =>
    refine ⟨?_, fun htunnelled => absurd hsecured (by rw [htunnelled.1]; exact Bool.false_ne_true)⟩
    rintro ⟨w, hhandler, hclean⟩
    have hnosniff := values_of_secured hsecured hhandler
    rw [hclean _ (by decide)] at hnosniff
    cases hnosniff
  | false =>
    have hpublic := @findHandler_public_iff r.method r.escapedPath hsecured
    obtain ⟨id, hmux⟩ := newHandler_of_not_secured hsecured
    rw [hmux]
    constructor
    · rintro ⟨w, hhandler, -⟩
      exact ⟨hsecured, hpublic.mp (mux_handler_iff.mp hhandler).1⟩
    · rintro ⟨-, hpath⟩
      exact ⟨_, mux_handler_iff.mpr ⟨hpublic.mpr hpath, rfl, rfl⟩, values_requestID id⟩

/-- What the public handler makes of a request for the host of a tunnel. -/
theorem route_of_host {baseDomain : GoString} {registry : Registry} {tunnel : ActiveTunnel} {r : PublicRequest}
    (hhost : (parsePublicHost r.host baseDomain).bind registry.get = some tunnel)
    (limiter : PublicRateLimiter) (now : Time) (random : Option Bytes) :
    (route baseDomain registry limiter r now random).1 ≠ .error notFound ∧
      ∀ h, (route baseDomain registry limiter r now random).1 = .ok h → h.tunnel = tunnel ∧ h.request = r := by
  rw [route, hhost]
  dsimp only
  split
  · exact ⟨by simp [notFound], fun h hok => by cases hok⟩
  · split
    · exact ⟨by simp [notFound, tooLarge], fun h hok => by cases hok⟩
    · cases random with
      | none => exact ⟨by simp [notFound], fun h hok => by cases hok⟩
      | some bytes =>
        refine ⟨by simp, fun h hok => ?_⟩
        cases hok
        exact ⟨rfl, rfl⟩

/-- A request for the host of a tunnel is the tunnel's exactly if no layer takes its path for the control plane's or for
    one to be cleaned first. -/
theorem tunnel_host_served_iff {baseDomain : GoString} {registry : Registry} {tunnel : ActiveTunnel}
    (allowedOrigins : List GoString) (random : Option Bytes) (r : Request)
    (hhost : (parsePublicHost r.host baseDomain).bind registry.get = some tunnel) :
    ServedBy baseDomain registry tunnel r (newHandler allowedOrigins random r ∅) ↔ Tunnelled r := by
  rw [ServedBy, untouched_iff]
  exact ⟨And.left, fun htunnelled => ⟨htunnelled, route_of_host hhost⟩⟩

def demoTunnel : ActiveTunnel :=
  { id := lit "tun_1", subdomain := lit "demo", agentID := lit "agt_1", userID := lit "usr_1"
    sessionID := lit "ses_1", localAddress := lit "http://localhost:3000" }

/-- A request of a page at `https://shop.example` for the host of the tunnel. -/
def demoRequest (method escapedPath : GoString) : Request :=
  { method, requestURI := escapedPath, header := http.Header.set ∅ (lit "Origin") (lit "https://shop.example")
    host := lit "demo.tunnel.example", remoteAddr := lit "10.0.0.1:80", tls := true, contentLength := 0
    body := [], escapedPath }

theorem tunnel_host_served_cart :
    (parsePublicHost (demoRequest (lit "POST") (lit "/cart")).host (lit "tunnel.example")).bind
        (newRegistry.open demoTunnel).get = some demoTunnel ∧
      ServedBy (lit "tunnel.example") (newRegistry.open demoTunnel) demoTunnel
        (demoRequest (lit "POST") (lit "/cart"))
        (newHandler [lit "https://app.example"] none (demoRequest (lit "POST") (lit "/cart")) ∅) := by
  have hhost : (parsePublicHost (demoRequest (lit "POST") (lit "/cart")).host (lit "tunnel.example")).bind
      (newRegistry.open demoTunnel).get = some demoTunnel := by decide
  exact ⟨hhost, (tunnel_host_served_iff _ _ _ hhost).mpr (by decide)⟩

/-- The application behind the tunnel has an API of its own, and metrics: the gateway refuses the origin of the page,
    and serves its own metrics. -/
theorem tunnel_host_refused :
    (parsePublicHost (demoRequest (lit "POST") (lit "/api/cart")).host (lit "tunnel.example")).bind
        (newRegistry.open demoTunnel).get = some demoTunnel ∧
      (∃ w, newHandler [lit "https://app.example"] none (demoRequest (lit "POST") (lit "/api/cart")) ∅ =
        .error 403 (lit "origin is not allowed") w) ∧
      (∃ w, newHandler [lit "https://app.example"] none (demoRequest (lit "GET") (lit "/metrics")) ∅ =
        .handler .metrics (demoRequest (lit "GET") (lit "/metrics")) w) ∧
      ¬ServedBy (lit "tunnel.example") (newRegistry.open demoTunnel) demoTunnel
        (demoRequest (lit "POST") (lit "/api/cart"))
        (newHandler [lit "https://app.example"] none (demoRequest (lit "POST") (lit "/api/cart")) ∅) ∧
      ¬ServedBy (lit "tunnel.example") (newRegistry.open demoTunnel) demoTunnel
        (demoRequest (lit "GET") (lit "/metrics"))
        (newHandler [lit "https://app.example"] none (demoRequest (lit "GET") (lit "/metrics")) ∅) := by
  refine ⟨by decide, ⟨_, rfl⟩, ⟨_, rfl⟩, ?_, ?_⟩
  · intro hserved
    exact absurd ((untouched_iff _ _ _).mp hserved.1) (by decide)
  · intro hserved
    exact absurd ((untouched_iff _ _ _).mp hserved.1) (by decide)

end myngrok.server
