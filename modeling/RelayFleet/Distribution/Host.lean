/-
A host of the distribution service: the service, and its open connections by name. The connections
are forwarded whenever the host comes to rest.
-/
import RelayFleet.Distribution.Forwarder
import RelayFleet.Distribution.Head

namespace RelayFleet

/-- The service with its connections. -/
structure DistributionHost where
  service : DistributionService
  connections : SortedMap String Connection := ∅

namespace DistributionHost

/-- The host with another distributor. -/
def withDistributor (h : DistributionHost) (d : Distributor) : DistributionHost :=
  { h with service := { h.service with distributor := d } }

/-- Puts a connection in its place. -/
def put (h : DistributionHost) (name : String) (b : Connection × Distributor) : DistributionHost :=
  { h.withDistributor b.2 with connections := h.connections.insert name b.1 }

/-- Forwards every connection until there is nothing to send. -/
def rest (h : DistributionHost) : DistributionHost :=
  h.connections.toList.foldl
    (fun h b => h.put b.1 (b.2.forwardAll h.service.distributor)) h

/-- Drops a connection. -/
def hangUp (h : DistributionHost) (name : String) : DistributionHost :=
  match h.connections.get? name with
  | none => h
  | some c =>
    let (_, d) := c.receive h.service.distributor .gone
    { h.withDistributor d with connections := h.connections.erase name }

/-- Asks for a connection by the head of a request; answers with the status of the reply. -/
def open? (h : DistributionHost) (name : String) (head : String) : Nat × DistributionHost :=
  match RequestHead.read head with
  | .error flaw => (flaw.status, h)
  | .ok head =>
    match h.service.answer head.upgradable head.request with
    | .plain status _ => (status, h)
    | .upgrade key policy =>
      let (c, d) := Connection.connect h.service.distributor key policy
      let h := (h.withDistributor d).hangUp name
      (101, { h with connections := h.connections.insert name c }.rest)

/-- Takes in what comes over a connection; answers with whether the connection took it. -/
def receive (h : DistributionHost) (name : String) (frame : PeerFrame) :
    Option (Bool × DistributionHost) :=
  let h := h.rest
  (h.connections.get? name).map fun c =>
    (c.running, (h.put name (c.receive h.service.distributor frame)).rest)

/-- The frames sent over a connection since they were read last, and whether it has ended. -/
def read (h : DistributionHost) (name : String) :
    Option ((List ServerFrame × Bool) × DistributionHost) :=
  let h := h.rest
  (h.connections.get? name).map fun c =>
    ((c.sent, ! c.running),
      { h with connections := h.connections.insert name { c with sent := [] } })

end DistributionHost

end RelayFleet
