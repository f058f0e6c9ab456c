/-
What is reported about resources survives its wire form: a status whose transition times have a text
is read as it was written (`ResourceStatus.ofJson?_toJson`), and so is its text.
-/
import RelayFleet.Status
import RelayFleet.Proofs.Json.Record
import RelayFleet.Proofs.Json.Text
import RelayFleet.Proofs.Time.Timestamp

namespace RelayFleet

open Json (Readable)

/-! ## Conditions -/

theorem ConditionStatus.ofText?_text (s : ConditionStatus) : ofText? s.text = some s := by
  cases s <;> rfl

namespace Condition

/-- Whether the transition time of a condition, if there is one, has a text. -/
def Dated (c : Condition) : Prop := ∀ t ∈ c.lastTransitionTime, t.Sound

instance (c : Condition) : Decidable c.Dated :=
  inferInstanceAs (Decidable (∀ t ∈ c.lastTransitionTime, t.Sound))

variable (how : Json.Reading)

theorem readable_toJson (c : Condition) : Readable c.toJson :=
  .present ⟨.member (.str _), .member (.str _), .member (.str _), .member (.str _),
    .optional (fun _ => .int _) _, .optional (fun _ => .str _) _⟩

theorem timeOfJson?_str {t : Timestamp} (h : t.Sound) : timeOfJson? (.str t.toText) = some t := by
  rw [timeOfJson?, Json.text?, Option.bind_some, Timestamp.parse?_toText h]

theorem ofJson?_toJson {c : Condition} (h : c.Dated) : ofJson? how c.toJson = some c := by
  have hread : c.toJson.strict?
      ["type", "status", "reason", "message", "observedGeneration", "lastTransitionTime"] =
        some [some (.str c.type), some (.str c.status.text), some (.str c.reason),
          some (.str c.message), c.observedGeneration.map (.int ·.toInt),
          c.lastTransitionTime.map (.str ·.toText)] := Json.strict?_present rfl (by decide)
  have htype : Json.needed Json.text? (some (.str c.type)) = some c.type := rfl
  have hstatus : Json.needed (Json.choice? how ConditionStatus.ofText?)
      (some (.str c.status.text)) = some c.status := c.status.ofText?_text
  have hreason : Json.needed Json.text? (some (.str c.reason)) = some c.reason := rfl
  have hmessage : Json.defaulted Json.text? "" (some (.str c.message)) = some c.message := rfl
  have hgeneration : Json.optional Json.int64? (c.observedGeneration.map (.int ·.toInt)) =
      some c.observedGeneration :=
    Json.optional_map (by rintro _ ⟨⟩) fun n _ => Json.int64?_int n
  have htime : Json.optional timeOfJson? (c.lastTransitionTime.map (.str ·.toText)) =
      some c.lastTransitionTime :=
    Json.optional_map (by rintro _ ⟨⟩) fun t ht => timeOfJson?_str (h t ht)
  unfold ofJson?
  simp only [hread, htype, hstatus, hreason, hmessage, hgeneration, htime, Option.bind_eq_bind,
    Option.bind_some]
  rfl

theorem listOfJson?_listToJson {cs : List Condition} (h : ∀ c ∈ cs, c.Dated) :
    listOfJson? how (listToJson cs) = some cs :=
  Json.list?_map fun c hc => ofJson?_toJson how (h c hc)

end Condition

/-! ## Gateways -/

namespace RouteGroupKind

theorem readable_toJson (k : RouteGroupKind) : Readable k.toJson :=
  .present ⟨.optional .str _, .member (.str _)⟩

theorem ofJson?_toJson (k : RouteGroupKind) : ofJson? k.toJson = some k := by
  have hread : k.toJson.strict? ["group", "kind"] = some [k.group.map .str, some (.str k.kind)] :=
    Json.strict?_present rfl (by decide)
  have hkind : Json.needed Json.text? (some (.str k.kind)) = some k.kind := rfl
  unfold ofJson?
  simp only [hread, Json.optional_text, hkind, Option.bind_eq_bind, Option.bind_some]
  rfl

end RouteGroupKind

namespace GatewayAddress

theorem readable_toJson (a : GatewayAddress) : Readable a.toJson :=
  .present ⟨.optional .str _, .member (.str _)⟩

theorem ofJson?_toJson (a : GatewayAddress) : ofJson? a.toJson = some a := by
  have hread : a.toJson.strict? ["type", "value"] = some [a.type.map .str, some (.str a.value)] :=
    Json.strict?_present rfl (by decide)
  have hvalue : Json.needed Json.text? (some (.str a.value)) = some a.value := rfl
  unfold ofJson?
  simp only [hread, Json.optional_text, hvalue, Option.bind_eq_bind, Option.bind_some]
  rfl

end GatewayAddress

namespace ListenerStatus

variable (how : Json.Reading)

theorem readable_toJson (s : ListenerStatus) : Readable s.toJson :=
  .members ⟨.str _, .int _, .list RouteGroupKind.readable_toJson, .list Condition.readable_toJson⟩

theorem ofJson?_toJson {s : ListenerStatus} (h : ∀ c ∈ s.conditions, c.Dated) :
    ofJson? how s.toJson = some s := by
  have hread : s.toJson.strict? ["name", "attachedRoutes", "supportedKinds", "conditions"] =
      some [some (.str s.name), some (.int s.attachedRoutes.toInt),
        some (.arr (s.supportedKinds.map (·.toJson))),
        some (Condition.listToJson s.conditions)] := Json.strict?_obj rfl (by decide)
  have hname : Json.needed Json.text? (some (.str s.name)) = some s.name := rfl
  have hattached : Json.needed Json.int32? (some (.int s.attachedRoutes.toInt)) =
      some s.attachedRoutes := Json.int32?_int s.attachedRoutes
  have hkinds : Json.defaulted (Json.list? RouteGroupKind.ofJson?) []
      (some (.arr (s.supportedKinds.map (·.toJson)))) = some s.supportedKinds :=
    Json.list?_map fun k _ => k.ofJson?_toJson
  have hconditions : Json.defaulted (Condition.listOfJson? how) []
      (some (Condition.listToJson s.conditions)) = some s.conditions :=
    Condition.listOfJson?_listToJson how h
  unfold ofJson?
  simp only [hread, hname, hattached, hkinds, hconditions, Option.bind_eq_bind, Option.bind_some]
  rfl

end ListenerStatus

namespace GatewayStatus

variable (how : Json.Reading)

theorem readable_toJson (s : GatewayStatus) : Readable s.toJson :=
  .members ⟨.list GatewayAddress.readable_toJson, .list Condition.readable_toJson,
    .list ListenerStatus.readable_toJson⟩

theorem ofJson?_toJson {s : GatewayStatus} (hown : ∀ c ∈ s.conditions, c.Dated)
    (hlisteners : ∀ l ∈ s.listeners, ∀ c ∈ l.conditions, c.Dated) :
    ofJson? how s.toJson = some s := by
  have hread : s.toJson.strict? ["addresses", "conditions", "listeners"] =
      some [some (.arr (s.addresses.map (·.toJson))), some (Condition.listToJson s.conditions),
        some (.arr (s.listeners.map (·.toJson)))] := Json.strict?_obj rfl (by decide)
  have haddresses : Json.defaulted (Json.list? GatewayAddress.ofJson?) []
      (some (.arr (s.addresses.map (·.toJson)))) = some s.addresses :=
    Json.list?_map fun a _ => a.ofJson?_toJson
  have hconditions : Json.defaulted (Condition.listOfJson? how) []
      (some (Condition.listToJson s.conditions)) = some s.conditions :=
    Condition.listOfJson?_listToJson how hown
  have hreported : Json.defaulted (Json.list? (ListenerStatus.ofJson? how)) []
      (some (.arr (s.listeners.map (·.toJson)))) = some s.listeners :=
    Json.list?_map fun l hl => ListenerStatus.ofJson?_toJson how (hlisteners l hl)
  unfold ofJson?
  simp only [hread, haddresses, hconditions, hreported, Option.bind_eq_bind, Option.bind_some]
  rfl

end GatewayStatus

namespace GatewayClassStatus

variable (how : Json.Reading)

theorem readable_toJson (s : GatewayClassStatus) : Readable s.toJson :=
  .members (.list Condition.readable_toJson)

theorem ofJson?_toJson {s : GatewayClassStatus} (h : ∀ c ∈ s.conditions, c.Dated) :
    ofJson? how s.toJson = some s := by
  have hread : s.toJson.strict? ["conditions"] =
      some [some (Condition.listToJson s.conditions)] := Json.strict?_obj rfl (by decide)
  have hconditions : Json.defaulted (Condition.listOfJson? how) []
      (some (Condition.listToJson s.conditions)) = some s.conditions :=
    Condition.listOfJson?_listToJson how h
  unfold ofJson?
  simp only [hread, hconditions, Option.bind_eq_bind, Option.bind_some]
  rfl

end GatewayClassStatus

/-! ## Routes -/

namespace ParentReference

theorem readable_toJson (r : ParentReference) : Readable r.toJson :=
  .present ⟨.optional .str _, .optional .str _, .optional .str _, .member (.str _),
    .optional .str _, .optional (fun _ => .int _) _⟩

theorem ofJson?_toJson (r : ParentReference) : ofJson? r.toJson = some r := by
  have hread : r.toJson.strict? ["group", "kind", "namespace", "name", "sectionName", "port"] =
      some [r.group.map .str, r.kind.map .str, r.inNamespace.map .str, some (.str r.name),
        r.sectionName.map .str, r.port.map (.int ·.toInt)] :=
    Json.strict?_present rfl (by decide)
  have hname : Json.needed Json.text? (some (.str r.name)) = some r.name := rfl
  have hport : Json.optional Json.int32? (r.port.map (.int ·.toInt)) = some r.port :=
    Json.optional_map (by rintro _ ⟨⟩) fun n _ => Json.int32?_int n
  unfold ofJson?
  simp only [hread, Json.optional_text, hname, hport, Option.bind_eq_bind, Option.bind_some]
  rfl

end ParentReference

namespace RouteParentStatus

variable (how : Json.Reading)

theorem readable_toJson (s : RouteParentStatus) : Readable s.toJson :=
  .members ⟨s.parentRef.readable_toJson, .str _, .list Condition.readable_toJson⟩

theorem ofJson?_toJson {s : RouteParentStatus} (h : ∀ c ∈ s.conditions, c.Dated) :
    ofJson? how s.toJson = some s := by
  have hread : s.toJson.strict? ["parentRef", "controllerName", "conditions"] =
      some [some s.parentRef.toJson, some (.str s.controllerName),
        some (Condition.listToJson s.conditions)] := Json.strict?_obj rfl (by decide)
  have hparent : Json.needed ParentReference.ofJson? (some s.parentRef.toJson) =
      some s.parentRef := s.parentRef.ofJson?_toJson
  have hcontroller : Json.needed Json.text? (some (.str s.controllerName)) =
      some s.controllerName := rfl
  have hconditions : Json.defaulted (Condition.listOfJson? how) []
      (some (Condition.listToJson s.conditions)) = some s.conditions :=
    Condition.listOfJson?_listToJson how h
  unfold ofJson?
  simp only [hread, hparent, hcontroller, hconditions, Option.bind_eq_bind, Option.bind_some]
  rfl

end RouteParentStatus

namespace RouteStatus

variable (how : Json.Reading)

theorem readable_toJson (s : RouteStatus) : Readable s.toJson :=
  .members (.list RouteParentStatus.readable_toJson)

theorem ofJson?_toJson {s : RouteStatus} (h : ∀ p ∈ s.parents, ∀ c ∈ p.conditions, c.Dated) :
    ofJson? how s.toJson = some s := by
  have hread : s.toJson.strict? ["parents"] = some [some (.arr (s.parents.map (·.toJson)))] :=
    Json.strict?_obj rfl (by decide)
  have hparents : Json.defaulted (Json.list? (RouteParentStatus.ofJson? how)) []
      (some (.arr (s.parents.map (·.toJson)))) = some s.parents :=
    Json.list?_map fun p hp => RouteParentStatus.ofJson?_toJson how (h p hp)
  unfold ofJson?
  simp only [hread, hparents, Option.bind_eq_bind, Option.bind_some]
  rfl

end RouteStatus

/-! ## Statuses of all kinds -/

namespace ResourceStatus

/-- Whether all transition times of a status have a text. -/
def Dated : ResourceStatus → Prop
  | gatewayClass s => ∀ c ∈ s.conditions, c.Dated
  | gateway s => (∀ c ∈ s.conditions, c.Dated) ∧ ∀ l ∈ s.listeners, ∀ c ∈ l.conditions, c.Dated
  | udpRoute s => ∀ p ∈ s.parents, ∀ c ∈ p.conditions, c.Dated

instance : DecidablePred Dated
  | gatewayClass s => inferInstanceAs (Decidable (∀ c ∈ s.conditions, c.Dated))
  | gateway s => inferInstanceAs (Decidable ((∀ c ∈ s.conditions, c.Dated) ∧
      ∀ l ∈ s.listeners, ∀ c ∈ l.conditions, c.Dated))
  | udpRoute s => inferInstanceAs (Decidable (∀ p ∈ s.parents, ∀ c ∈ p.conditions, c.Dated))

theorem readable_toJson (s : ResourceStatus) : Readable s.toJson := by
  cases s with
  | gatewayClass s => exact s.readable_toJson
  | gateway s => exact s.readable_toJson
  | udpRoute s => exact s.readable_toJson

/-- A status is read as it was written, by the kind of its resource. -/
theorem ofJson?_toJson {s : ResourceStatus} (h : s.Dated) : ofJson? s.kind s.toJson = some s := by
  cases s with
  | gatewayClass s =>
    exact congrArg (Option.map gatewayClass) (GatewayClassStatus.ofJson?_toJson .direct h)
  | gateway s =>
    exact congrArg (Option.map gateway) (GatewayStatus.ofJson?_toJson .direct h.1 h.2)
  | udpRoute s => exact congrArg (Option.map udpRoute) (RouteStatus.ofJson?_toJson .direct h)

end ResourceStatus

end RelayFleet
