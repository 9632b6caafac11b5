import Myngrok.Go.Text

open golang

namespace myngrok.tunnels

/-- Lower-case letters, digits and the hyphen. -/
def subdomainByte (b : UInt8) : Bool :=
  utf8.within 0x61 0x7A b || utf8.within 0x30 0x39 b || b = 0x2D

/-! `lower` is what `strings.ToLower` does. -/

/-- A text without the white space around it, without a dot at its end, and in lower case. -/
def normalForm (lower : GoString → GoString) (s : GoString) : GoString :=
  lower (strings.trimSuffix (strings.trimSpace s) (lit "."))

def normalizeHostIn (lower : GoString → GoString) (host : GoString) : GoString :=
  let host := normalForm lower host
  match net.splitHostPort host with
  | some (value, _) => value
  | none => host

/-- The one-label subdomain that a Host header names. -/
def parsePublicHostIn (lower : GoString → GoString) (host baseDomain : GoString) : Option GoString :=
  let host := normalizeHostIn lower host
  let baseDomain := normalForm lower baseDomain
  if host = [] ∨ baseDomain = [] then none
  else
    let suffix := lit "." ++ baseDomain
    if !strings.hasSuffix host suffix then none
    else
      let subdomain := strings.trimSuffix host suffix
      if subdomain = [] ∨ 0x2E ∈ subdomain then none
      else if subdomain.all subdomainByte then some subdomain
      else none

/-! On ASCII: the server of net/http admits no other bytes in a Host. -/

def normalizeHost (host : GoString) : GoString := normalizeHostIn strings.toLower host

def parsePublicHost (host baseDomain : GoString) : Option GoString := parsePublicHostIn strings.toLower host baseDomain

example : normalizeHost (lit " Demo.tunnel.example. ") = lit "demo.tunnel.example" := by decide

example : parsePublicHost (lit "Demo.tunnel.example.:8080") (lit "tunnel.example") = none := by decide

example : parsePublicHost (lit "Demo.tunnel.example:8080") (lit "tunnel.example") = some (lit "demo") := by
  decide

end myngrok.tunnels
