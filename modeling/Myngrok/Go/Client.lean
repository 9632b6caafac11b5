import Myngrok.Go.Url

namespace golang.http

/-- What `http.Client` goes by, for a type of requests and a type of answers. -/
structure ClientRules (Q A : Type) where
  method : Q → GoString
  statusCode : A → Int
  /-- `Header.Get("Location")`. -/
  location : A → GoString
  /-- The next request: from the first one, the one that was answered, where to go, with which method and whether with
      the body again; an error if the location is no URL. -/
  redirected : (first last : Q) → (location method : GoString) → (includeBody : Bool) → Except Error Q
  /-- How many redirects are followed: nine, since `defaultCheckRedirect` allows ten requests. -/
  redirects : Nat

variable {Q A : Type}

/-- `redirectBehavior`: the method of the next request and whether it carries the body, for an answer that redirects.
    The body is at hand again for requests made from a `bytes.Reader`. -/
def redirectBehavior (method : GoString) (statusCode : Int) : Option (GoString × Bool) :=
  if statusCode = 301 ∨ statusCode = 302 ∨ statusCode = 303 then
    some (if method = lit "GET" ∨ method = lit "HEAD" then method else lit "GET", false)
  else if statusCode = 307 ∨ statusCode = 308 then some (method, true)
  else none

/-- The loop of `Client.Do`. `roundTrip` is the transport with what is behind it, which may go by all the requests `via`
    that came before: how often it sends the request, and its result. The result of the loop has all that was sent. -/
def ClientRules.follow (rules : ClientRules Q A) (roundTrip : List Q → Q → Nat × Except Error A) (first : Q) :
    Nat → List Q → Q → List Q × Except Error A
  | redirects, via, request =>
    let sent := List.replicate (roundTrip via request).1 request
    match (roundTrip via request).2 with
    | .error err => (sent, .error err)
    | .ok answer =>
      match redirectBehavior (rules.method request) (rules.statusCode answer) with
      | none => (sent, .ok answer)
      | some (method, includeBody) =>
        if rules.location answer = [] then (sent, .ok answer)
        else
          match rules.redirected first request (rules.location answer) method includeBody with
          | .error err => (sent, .error err)
          | .ok next =>
            match redirects with
            | 0 => (sent, .error (lit "stopped after 10 redirects"))
            | redirects + 1 =>
              let (rest, result) := rules.follow roundTrip first redirects (via ++ [request]) next
              (sent ++ rest, result)

/-- `Client.Do`: the requests that it sends, and its result. -/
def ClientRules.do (rules : ClientRules Q A) (roundTrip : List Q → Q → Nat × Except Error A) (request : Q) :
    List Q × Except Error A :=
  rules.follow roundTrip request rules.redirects [] request

variable {rules : ClientRules Q A} {roundTrip : List Q → Q → Nat × Except Error A} {request : Q}

end golang.http
