import Myngrok.Go.Map
import Myngrok.Go.Text

open golang

namespace myngrok.tunnels

structure ActiveTunnel where
  id : GoString
  subdomain : GoString
  agentID : GoString
  userID : GoString
  sessionID : GoString
  localAddress : GoString
  deriving DecidableEq

structure TrafficMetrics where
  requestsTotal : UInt64
  requestBytes : UInt64
  responseBytes : UInt64
  deriving DecidableEq

structure Registry where
  bySubdomain : Map GoString ActiveTunnel
  byID : Map GoString GoString
  traffic : TrafficMetrics
  perUser : Map GoString TrafficMetrics
  deriving DecidableEq

def TrafficMetrics.zero : TrafficMetrics := { requestsTotal := 0, requestBytes := 0, responseBytes := 0 }

/-- One request; a length that is not positive is not counted. -/
def TrafficMetrics.add (m : TrafficMetrics) (requestBytes responseBytes : Int) : TrafficMetrics :=
  { requestsTotal := m.requestsTotal + 1
    requestBytes := if requestBytes > 0 then m.requestBytes + UInt64.ofNat requestBytes.toNat else m.requestBytes
    responseBytes :=
      if responseBytes > 0 then m.responseBytes + UInt64.ofNat responseBytes.toNat else m.responseBytes }

def newRegistry : Registry := { bySubdomain := ∅, byID := ∅, traffic := .zero, perUser := ∅ }

namespace Registry

def «open» (r : Registry) (tunnel : ActiveTunnel) : Registry :=
  { r with
    bySubdomain := r.bySubdomain.insert tunnel.subdomain tunnel
    byID := r.byID.insert tunnel.id tunnel.subdomain }

def get (r : Registry) (subdomain : GoString) : Option ActiveTunnel := r.bySubdomain.lookup subdomain

def close (r : Registry) (id : GoString) : Bool × Registry :=
  match r.byID.lookup id with
  | none => (false, r)
  | some subdomain => (true, { r with
    byID := r.byID.erase id
    bySubdomain := r.bySubdomain.erase subdomain })

/-- The session of the tunnel at a subdomain; that of Go's zero value when there is none. -/
def sessionAt (r : Registry) (subdomain : GoString) : GoString :=
  match r.bySubdomain.lookup subdomain with
  | some tunnel => tunnel.sessionID
  | none => []

/-- One round of the loop of `CloseSession`. -/
def closeIfOf (sessionID : GoString) (r : Registry) (id : GoString) : Registry :=
  match r.byID.lookup id with
  | some subdomain => if r.sessionAt subdomain = sessionID then (r.close id).2 else r
  | none => r

/-- `CloseSession`, in the order in which `range` visits `byID`. -/
def closeSession (r : Registry) (sessionID : GoString) (order : List GoString) : Registry :=
  order.foldl (closeIfOf sessionID) r

def recordTraffic (r : Registry) (tunnelID : GoString) (requestBytes responseBytes : Int) : Registry :=
  match r.byID.lookup tunnelID with
  | none => r
  | some subdomain =>
    let r := { r with traffic := r.traffic.add requestBytes responseBytes }
    match r.bySubdomain.lookup subdomain with
    | none => r
    | some tunnel =>
      if tunnel.userID = [] then r
      else
        let delta := (r.perUser.lookup tunnel.userID).getD .zero
        { r with perUser := r.perUser.insert tunnel.userID (delta.add requestBytes responseBytes) }

def drainUserDeltas (r : Registry) : Map GoString TrafficMetrics × Registry :=
  (r.perUser, { r with perUser := ∅ })

end Registry

end myngrok.tunnels
