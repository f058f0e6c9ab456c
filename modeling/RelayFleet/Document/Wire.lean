/-
The wire form of configuration documents: JSON text without spaces, members in a fixed order, and
what is absent left out.
-/
import RelayFleet.Document.Basic
import RelayFleet.Json.Text
import RelayFleet.Json.Record

namespace RelayFleet

/-! ## Listeners and clusters -/

namespace ListenerConfig

/-- Reads a listener. -/
def ofJson? (j : Json) : Option ListenerConfig := do
  let [name, protocol, port, address, publicPort, routes] ← j.strict?
    ["name", "protocol", "port", "publicAddress", "publicPort", "routes"] | none
  return {
    name := ← Json.needed Json.text? name
    protocol := ← Json.needed (Json.choice? .direct Protocol.ofText?) protocol
    port := ← Json.needed Json.word16? port
    publicAddress := ← Json.optional Json.text? address
    publicPort := ← Json.optional Json.word16? publicPort
    routes := ← Json.defaulted (Json.list? Json.text?) [] routes }

/-- Writes a listener. -/
def toJson (l : ListenerConfig) : Json :=
  .present [
    ("name", some (.str l.name)),
    ("protocol", some (.str l.protocol.text)),
    ("port", some (.nat l.port.toNat)),
    ("publicAddress", l.publicAddress.map .str),
    ("publicPort", l.publicPort.map (.nat ·.toNat)),
    ("routes", some (.arr (l.routes.map .str)))]

end ListenerConfig

namespace ClusterConfig

/-- Reads a cluster. -/
def ofJson? (j : Json) : Option ClusterConfig := do
  let [name, type, endpoints] ← j.strict? ["name", "type", "endpoints"] | none
  return {
    name := ← Json.needed Json.text? name
    type := ← Json.needed (Json.choice? .direct ClusterType.ofText?) type
    endpoints := .ofList (← Json.defaulted (Json.list? Json.text?) [] endpoints) }

/-- Writes a cluster. -/
def toJson (c : ClusterConfig) : Json :=
  .obj [("name", .str c.name), ("type", .str c.type.text),
    ("endpoints", .arr (c.endpoints.toList.map .str))]

end ClusterConfig

/-! ## Documents -/

namespace Document

/-- Reads a document. -/
def ofJson? (j : Json) : Option Document := do
  let [listeners, clusters] ← j.strict? ["listeners", "clusters"] | none
  return {
    listeners := ← Json.defaulted (Json.list? ListenerConfig.ofJson?) [] listeners
    clusters := ← Json.defaulted (Json.list? ClusterConfig.ofJson?) [] clusters }

/-- Writes a document. -/
def toJson (d : Document) : Json :=
  .obj [("listeners", .arr (d.listeners.map (·.toJson))),
    ("clusters", .arr (d.clusters.map (·.toJson)))]

/-- The wire text of a document. -/
def toText (d : Document) : String := d.toJson.render

/-- The document of a wire text. -/
def ofText? (text : String) : Option Document := (Json.parse? text).bind ofJson?

/-- The document of a wire text, or the fault of its not being one. -/
def ofText (text : String) : Except Fault Document :=
  match ofText? text with
  | some d => .ok d
  | none => .error (.serialization (some "RenderedConfig") "not a configuration document")

end Document

end RelayFleet
