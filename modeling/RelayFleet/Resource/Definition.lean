/-
The definitions under which the custom kinds are registered: group, names, versions and the columns
that listings show.
-/
import RelayFleet.Resource.GatewayClass

namespace RelayFleet

/-- A column of a listing. -/
structure PrinterColumn where
  name : String
  type : String
  jsonPath : String
deriving DecidableEq

/-- The registration of a custom kind, which has one version. -/
structure ResourceDefinition where
  group : String
  version : String
  kind : String
  plural : String
  shortNames : List String := []
  namespaced : Bool
  statusSubresource : Bool
  columns : List PrinterColumn := []
deriving DecidableEq

namespace ResourceDefinition

/-- The singular name. -/
def singular (d : ResourceDefinition) : String := Ascii.lower d.kind

/-- The name of the definition itself. -/
def name (d : ResourceDefinition) : String := d.plural ++ "." ++ d.group

/-- Group and version. -/
def apiVersion (d : ResourceDefinition) : String := d.group ++ "/" ++ d.version

/-- How far an object's name reaches. -/
def scope (d : ResourceDefinition) : String := if d.namespaced then "Namespaced" else "Cluster"

/-- The definition of a kind; core kinds have none. -/
def ofKind? : ObjectKind → Option ResourceDefinition
  | .gatewayClass => some {
      group := gatewayGroup, version := "v1", kind := "GatewayClass", plural := "gatewayclasses"
      namespaced := false, statusSubresource := true }
  | .gateway => some {
      group := gatewayGroup, version := "v1", kind := "Gateway", plural := "gateways"
      namespaced := true, statusSubresource := true }
  | .udpRoute => some {
      group := gatewayGroup, version := "v1alpha2", kind := "UDPRoute", plural := "udproutes"
      namespaced := true, statusSubresource := true }
  | .gatewayConfig => some {
      group := relayGroup, version := "v1", kind := "GatewayConfig", plural := "gatewayconfigs"
      shortNames := ["gwconf"], namespaced := true, statusSubresource := false
      columns := [⟨"Realm", "string", ".spec.realm"⟩, ⟨"Dataplane", "string", ".spec.dataplane"⟩,
        ⟨"Age", "date", ".metadata.creationTimestamp"⟩] }
  | .dataplane => some {
      group := relayGroup, version := "v1", kind := "Dataplane", plural := "dataplanes"
      shortNames := ["dp"], namespaced := false, statusSubresource := false
      columns := [⟨"Image", "string", ".spec.image"⟩, ⟨"Replicas", "integer", ".spec.replicas"⟩] }
  | .service => none
  | .endpointSlice => none
  | .secret => none
  | .node => none

end ResourceDefinition

end RelayFleet
