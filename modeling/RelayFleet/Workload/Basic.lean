/-
Workloads: what has to run for one gateway, and which ports it listens on.
-/
import RelayFleet.Resource.Gateway
import RelayFleet.Resource.Dataplane
import RelayFleet.Document.Protocol

namespace RelayFleet

/-- The gateway that derived objects belong to. -/
structure GatewayOwner where
  name : String
  uid : String
deriving DecidableEq, Inhabited

namespace GatewayOwner

/-- The owner that a gateway is, once the API server has given it an identity. -/
def of? (g : Gateway) : Option GatewayOwner :=
  g.metadata.uid.map fun uid => ⟨g.metadata.anyName, uid⟩

/-- Order of owners: by name, then by identity. -/
def order : GatewayOwner → GatewayOwner → Ordering :=
  compareLex (compareOn name) (compareOn uid)

instance : Ord GatewayOwner := ⟨order⟩

instance : Std.TransOrd GatewayOwner :=
  inferInstanceAs (Std.TransCmp (compareLex (compareOn name) (compareOn uid)))

instance : Std.LawfulEqOrd GatewayOwner where
  eq_of_compare {a b} h := by
    obtain ⟨hname, huid⟩ := Ordering.then_eq_eq.1 h
    have hname : compare a.name b.name = .eq := hname
    have huid : compare a.uid b.uid = .eq := huid
    cases a; cases b
    exact congr (congrArg mk (Std.LawfulEqCmp.eq_of_compare hname))
      (Std.LawfulEqCmp.eq_of_compare huid)

/-- The reference to the owner that a derived object carries. -/
def reference (o : GatewayOwner) (controller : Bool) : OwnerReference where
  apiVersion := gatewayGroup ++ "/v1"
  kind := "Gateway"
  name := o.name
  uid := o.uid
  controller := some controller
  blockOwnerDeletion := some true

end GatewayOwner

/-- A port that a relay listens on. -/
structure WorkloadPort where
  name : String
  protocol : Protocol
  port : UInt16
deriving DecidableEq, Inhabited

namespace WorkloadPort

/-- The port of a listener, named after its transport and number. -/
def of (protocol : Protocol) (port : UInt16) : WorkloadPort where
  name := Ascii.lower protocol.transport.text ++ "-" ++ toString port.toNat
  protocol := protocol
  port := port

/-- Order of ports: by name, then by protocol, then by number. -/
def order : WorkloadPort → WorkloadPort → Ordering :=
  compareLex (compareOn name) <|
    compareLex (compareOn fun p => p.protocol.rank) (compareOn fun p => p.port.toNat)

instance : Ord WorkloadPort := ⟨order⟩

instance : Std.TransOrd WorkloadPort :=
  inferInstanceAs (Std.TransCmp (compareLex (compareOn name)
    (compareLex (compareOn fun p => p.protocol.rank) (compareOn fun p => p.port.toNat))))

instance : Std.LawfulEqOrd WorkloadPort where
  eq_of_compare {a b} h := by
    obtain ⟨hname, hrest⟩ := Ordering.then_eq_eq.1 h
    obtain ⟨hprotocol, hport⟩ := Ordering.then_eq_eq.1 hrest
    have hname : compare a.name b.name = .eq := hname
    have hprotocol : compare a.protocol.rank b.protocol.rank = .eq := hprotocol
    have hport : compare a.port.toNat b.port.toNat = .eq := hport
    cases a; cases b
    exact congr (congr (congrArg mk (Std.LawfulEqCmp.eq_of_compare hname))
      (Protocol.eq_of_rank (Std.LawfulEqCmp.eq_of_compare hprotocol)))
      (UInt16.toNat_inj.1 (Std.LawfulEqCmp.eq_of_compare hport))

end WorkloadPort

/-- What has to run for one gateway. -/
structure Workload where
  gateway : ObjectKey
  owner : Option GatewayOwner := none
  /-- The name of the relay template. -/
  dataplane : String
  spec : DataplaneSpec
  ports : List WorkloadPort := []
  serviceType : String
  /-- The name of the artifact that relays read their configuration from. -/
  configName : String
  realm : Option String := none
deriving DecidableEq, Inhabited

end RelayFleet
