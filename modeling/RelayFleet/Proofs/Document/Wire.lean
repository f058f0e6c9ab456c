/-
Configuration documents survive their wire form: the text of a document, and of an update with it,
reads as what it was written for (`ofText?_toText`), so that two documents have the same text only
if they are the same.
-/
import RelayFleet.Distribution.Topic
import RelayFleet.Proofs.Json.Record
import RelayFleet.Proofs.Json.Text
import RelayFleet.Proofs.SortedSet

namespace RelayFleet

open Json (Readable)

theorem Protocol.ofText?_text (p : Protocol) : ofText? p.text = some p := by
  cases p <;> rfl

theorem ClusterType.ofText?_text (t : ClusterType) : ofText? t.text = some t := by
  cases t <;> rfl

theorem Json.list?_texts (l : List String) : list? text? (.arr (l.map .str)) = some l :=
  list?_map fun _ _ => rfl

/-! ## Listeners and clusters -/

namespace ListenerConfig

theorem readable_toJson (l : ListenerConfig) : Readable l.toJson :=
  .present ⟨.member (.str _), .member (.str _), .member (.nat _), .optional .str _,
    .optional (fun _ => .nat _) _, .member (.list .str)⟩

theorem ofJson?_toJson (l : ListenerConfig) : ofJson? l.toJson = some l := by
  have hnames : ["name", "protocol", "port", "publicAddress", "publicPort", "routes"].Nodup := by
    decide
  have hread : l.toJson.strict?
      ["name", "protocol", "port", "publicAddress", "publicPort", "routes"] =
        some [some (.str l.name), some (.str l.protocol.text), some (.nat l.port.toNat),
          l.publicAddress.map .str, l.publicPort.map (.nat ·.toNat),
          some (.arr (l.routes.map .str))] := Json.strict?_present rfl hnames
  have hprotocol : Json.needed (Json.choice? .direct Protocol.ofText?)
      (some (.str l.protocol.text)) = some l.protocol := Protocol.ofText?_text l.protocol
  have hport : Json.needed Json.word16? (some (.nat l.port.toNat)) = some l.port :=
    Json.word16?_nat l.port
  have haddress : Json.optional Json.text? (l.publicAddress.map .str) = some l.publicAddress :=
    Json.optional_text l.publicAddress
  have hpublicPort : Json.optional Json.word16? (l.publicPort.map (.nat ·.toNat)) =
      some l.publicPort := Json.optional_map (by rintro _ ⟨⟩) fun n _ => Json.word16?_nat n
  have hroutes : Json.defaulted (Json.list? Json.text?) [] (some (.arr (l.routes.map .str))) =
      some l.routes := Json.list?_texts l.routes
  have hname : Json.needed Json.text? (some (.str l.name)) = some l.name := rfl
  unfold ofJson?
  simp only [hread, hname, hprotocol, hport, haddress, hpublicPort, hroutes, Option.bind_eq_bind,
    Option.bind_some]
  rfl

end ListenerConfig

namespace ClusterConfig

theorem readable_toJson (c : ClusterConfig) : Readable c.toJson :=
  .members ⟨.str _, .str _, .list .str⟩

theorem ofJson?_toJson (c : ClusterConfig) : ofJson? c.toJson = some c := by
  have hread : c.toJson.strict? ["name", "type", "endpoints"] =
      some [some (.str c.name), some (.str c.type.text),
        some (.arr (c.endpoints.toList.map .str))] := Json.strict?_obj rfl (by decide)
  have hname : Json.needed Json.text? (some (.str c.name)) = some c.name := rfl
  have htype : Json.needed (Json.choice? .direct ClusterType.ofText?) (some (.str c.type.text)) =
      some c.type := ClusterType.ofText?_text c.type
  have hendpoints : Json.defaulted (Json.list? Json.text?) []
      (some (.arr (c.endpoints.toList.map .str))) = some c.endpoints.toList :=
    Json.list?_texts c.endpoints.toList
  unfold ofJson?
  simp only [hread, hname, htype, hendpoints, Option.bind_eq_bind, Option.bind_some,
    SortedSet.ofList_toList]
  rfl

end ClusterConfig

/-! ## Documents and updates -/

namespace Document

theorem readable_toJson (d : Document) : Readable d.toJson :=
  .members ⟨.list ListenerConfig.readable_toJson, .list ClusterConfig.readable_toJson⟩

theorem ofJson?_toJson (d : Document) : ofJson? d.toJson = some d := by
  have hread : d.toJson.strict? ["listeners", "clusters"] =
      some [some (.arr (d.listeners.map (·.toJson))), some (.arr (d.clusters.map (·.toJson)))] :=
    Json.strict?_obj rfl (by decide)
  have hlisteners : Json.defaulted (Json.list? ListenerConfig.ofJson?) []
      (some (.arr (d.listeners.map (·.toJson)))) = some d.listeners :=
    Json.list?_map fun l _ => l.ofJson?_toJson
  have hclusters : Json.defaulted (Json.list? ClusterConfig.ofJson?) []
      (some (.arr (d.clusters.map (·.toJson)))) = some d.clusters :=
    Json.list?_map fun c _ => c.ofJson?_toJson
  unfold ofJson?
  simp only [hread, hlisteners, hclusters, Option.bind_eq_bind, Option.bind_some]
  rfl

theorem ofText?_toText (d : Document) : ofText? d.toText = some d := by
  rw [ofText?, toText, Json.parse?_render d.readable_toJson, Option.bind_some, ofJson?_toJson]

end Document

namespace ConfigUpdate

/-- The update of a text. -/
def ofText? (text : String) : Option ConfigUpdate := (Json.parse? text).bind ofJson?

theorem readable_toJson (u : ConfigUpdate) : Readable u.toJson :=
  .members ⟨.nat _, u.config.readable_toJson⟩

theorem ofJson?_toJson (version : UInt64) (d : Document) :
    ofJson? (toJson ⟨version.toNat, d⟩) = some ⟨version.toNat, d⟩ := by
  have hread : (toJson ⟨version.toNat, d⟩).strict? ["version", "config"] =
      some [some (.nat version.toNat), some d.toJson] := Json.strict?_obj rfl (by decide)
  have hversion : Json.needed Json.word64? (some (.nat version.toNat)) = some version.toNat :=
    Json.word64?_nat version
  have hconfig : Json.needed Document.ofJson? (some d.toJson) = some d := d.ofJson?_toJson
  unfold ofJson?
  simp only [hread, hversion, hconfig, Option.bind_eq_bind, Option.bind_some]
  rfl

theorem ofText?_toText (version : UInt64) (d : Document) :
    ofText? (toText ⟨version.toNat, d⟩) = some ⟨version.toNat, d⟩ := by
  rw [ofText?, toText, Json.parse?_render (readable_toJson _), Option.bind_some, ofJson?_toJson]

end ConfigUpdate

namespace Document

/-- The wire form loses nothing: the text of a document reads as the document, the text of an
update as the update, and documents of the same text are the same. -/
theorem wire_lossless :
    (∀ d : Document, ofText d.toText = .ok d) ∧
    (∀ (version : UInt64) (d : Document),
      ConfigUpdate.ofText? (ConfigUpdate.toText ⟨version.toNat, d⟩) = some ⟨version.toNat, d⟩) ∧
    ∀ d d' : Document, d.toText = d'.toText ↔ d = d' := by
  refine ⟨fun d => ?_, ConfigUpdate.ofText?_toText, fun d d' => ⟨fun h => ?_, congrArg _⟩⟩
  · rw [ofText, ofText?_toText]
  · have hread := congrArg ofText? h
    rw [ofText?_toText, ofText?_toText] at hread
    exact Option.some.inj hread

/-- Quotes, control characters and characters beyond the first plane come back. -/
example : ofText? (toText { clusters := [{
    name := "a\"b\\\x01\x7f😀", type := .strictDns, endpoints := .ofList ["z", "y"] }] }) =
    some { clusters := [{
      name := "a\"b\\\x01\x7f😀", type := .strictDns, endpoints := .ofList ["z", "y"] }] } := by
  decide +kernel

end Document

end RelayFleet
