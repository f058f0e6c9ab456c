/-
The configuration document: the listeners of a relay and the clusters of peers that clients reach
through them. `normalize` puts a document's parts in order, and `merge` adds one document to
another.
-/
import RelayFleet.Document.Protocol
import RelayFleet.SortedSet

namespace RelayFleet

/-- How the endpoints of a cluster are to be understood. -/
inductive ClusterType where
  /-- Addresses. -/
  | static
  /-- Host names that the relay looks up. -/
  | strictDns
deriving DecidableEq, Inhabited

namespace ClusterType

/-- The name of a cluster type. -/
def text : ClusterType → String
  | static => "STATIC"
  | strictDns => "STRICT_DNS"

/-- The cluster type of a name. -/
def ofText? (s : String) : Option ClusterType :=
  if s = "STATIC" then some static
  else if s = "STRICT_DNS" then some strictDns
  else none

end ClusterType

/-- A listener of a relay. `routes` names the clusters that are reached through it. -/
structure ListenerConfig where
  name : String
  protocol : Protocol
  port : UInt16
  publicAddress : Option String := none
  publicPort : Option UInt16 := none
  routes : List String := []
deriving DecidableEq, Inhabited

/-- A cluster of peers. -/
structure ClusterConfig where
  name : String
  type : ClusterType
  endpoints : SortedSet String := ∅
deriving DecidableEq, Inhabited

/-- A configuration document. -/
structure Document where
  listeners : List ListenerConfig := []
  clusters : List ClusterConfig := []
deriving DecidableEq, Inhabited

namespace Document

/-- The document without listeners and clusters. -/
def empty : Document := {}

/-- Whether a document has neither a listener nor a cluster. -/
def isEmpty (d : Document) : Bool := d.listeners.isEmpty && d.clusters.isEmpty

/-- Puts items in the order of their names, those of one name in the order they came in. -/
def sortByName {α : Type} (name : α → String) (l : List α) : List α :=
  l.mergeSort fun a b => (compare (name a) (name b)).isLE

/-- Puts listeners and clusters in the order of their names, and lists every route of a listener
once, in order. -/
def normalize (d : Document) : Document where
  listeners := sortByName (·.name)
    (d.listeners.map fun l => { l with routes := (SortedSet.ofList l.routes).toList })
  clusters := sortByName (·.name) d.clusters

/-- Adds the endpoints of a cluster to the first one of its name, or else the cluster itself. -/
def addCluster (clusters : List ClusterConfig) (c : ClusterConfig) : List ClusterConfig :=
  match clusters with
  | [] => [c]
  | k :: rest =>
    if k.name = c.name then { k with endpoints := k.endpoints.union c.endpoints } :: rest
    else k :: addCluster rest c

/-- Adds another document: its listeners are appended, and clusters of one name become one. -/
def merge (d other : Document) : Document :=
  normalize {
    listeners := d.listeners ++ other.listeners
    clusters := other.clusters.foldl addCluster d.clusters }

/-- The first listener of a name. -/
def listener? (d : Document) (name : String) : Option ListenerConfig :=
  d.listeners.find? (·.name == name)

/-- The first cluster of a name. -/
def cluster? (d : Document) (name : String) : Option ClusterConfig :=
  d.clusters.find? (·.name == name)

end Document

end RelayFleet
