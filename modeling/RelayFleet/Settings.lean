/-
The settings of the control plane, and which of them it cannot work with.
-/
import RelayFleet.Backoff
import RelayFleet.Fault
import RelayFleet.Resource.GatewayClass
import RelayFleet.Text.Blank

namespace RelayFleet

/-- Which addresses of a backend end up in a cluster. -/
structure EndpointPolicy where
  /-- The ready endpoints of a service. -/
  discovery : Bool
  /-- The cluster address of a service. -/
  relayToClusterIp : Bool
deriving DecidableEq, Inhabited

/-- The settings of the control plane. -/
structure Settings where
  /-- The controller name of the classes in our charge. -/
  controllerName : String := "turngate.dev/gateway-operator"
  /-- The finalizer that gateways carry as long as something was derived from them. -/
  finalizer : String := "turngate.dev/gateway-finalizer"
  endpointDiscovery : Bool := true
  relayToClusterIp : Bool := true
  /-- The relay template of classes that name none. -/
  defaultDataplane : String := "default"
  /-- Room between two stages. -/
  channelCapacity : Nat := 64
  /-- Versions that are kept for a subscriber who wants every one. -/
  subscriberBuffer : Nat := 16
  /-- Attempts at a status write that meets newer versions. -/
  statusRetryAttempts : Nat := 5
  /-- Nanoseconds after which statuses that could not be written are tried again. -/
  statusInterval : Nat := 5000000000
  /-- Attempts at a write of a derived object. -/
  writeAttempts : Nat := 5
  /-- The pauses between those attempts. -/
  writeBackoff : Backoff := { first := 100000000, longest := 10000000000 }
deriving DecidableEq, Inhabited

namespace Settings

/-- What keeps the control plane from working with its settings. -/
inductive Flaw where
  | controllerEmpty
  | controllerUnprefixed (name : String)
  | finalizerEmpty
  | noChannelCapacity
  | noSubscriberBuffer
  | noStatusAttempts
deriving DecidableEq

/-- The text of a flaw. -/
def Flaw.text : Flaw → String
  | controllerEmpty => "controller name must not be empty"
  | controllerUnprefixed name =>
    "controller name '" ++ name ++ "' must be domain-prefixed (example.com/name)"
  | finalizerEmpty => "finalizer must not be empty"
  | noChannelCapacity => "channel capacity must be at least 1"
  | noSubscriberBuffer => "subscriber buffer must be at least 1"
  | noStatusAttempts => "status retry attempts must be at least 1"

/-- The first flaw of the settings, if they have one. -/
def flaw? (s : Settings) : Option Flaw :=
  if Blank.onlyBlanks s.controllerName then some .controllerEmpty
  else if ¬ s.controllerName.toList.contains '/' then some (.controllerUnprefixed s.controllerName)
  else if Blank.onlyBlanks s.finalizer then some .finalizerEmpty
  else if s.channelCapacity = 0 then some .noChannelCapacity
  else if s.subscriberBuffer = 0 then some .noSubscriberBuffer
  else if s.statusRetryAttempts = 0 then some .noStatusAttempts
  else none

/-- Accepts the settings, or says what is wrong with them. -/
def validate (s : Settings) : Except Fault Unit :=
  match s.flaw? with
  | none => .ok ()
  | some flaw => .error (.validation "config" flaw.text)

/-- Reads settings; what is left open is as in other settings. -/
def ofJson? (base : Settings) (j : Json) : Option Settings := do
  let [controllerName, finalizer, discovery, relay, dataplane, capacity, buffer, statusAttempts,
      writeAttempts] ← j.lenient?
    ["controllerName", "finalizer", "endpointDiscovery", "relayToClusterIp", "defaultDataplane",
      "channelCapacity", "subscriberBuffer", "statusRetryAttempts", "writeAttempts"] | none
  return { base with
    controllerName := ← Json.defaulted Json.text? base.controllerName controllerName
    finalizer := ← Json.defaulted Json.text? base.finalizer finalizer
    endpointDiscovery := ← Json.defaulted Json.flag? base.endpointDiscovery discovery
    relayToClusterIp := ← Json.defaulted Json.flag? base.relayToClusterIp relay
    defaultDataplane := ← Json.defaulted Json.text? base.defaultDataplane dataplane
    channelCapacity := ← Json.defaulted Json.word64? base.channelCapacity capacity
    subscriberBuffer := ← Json.defaulted Json.word64? base.subscriberBuffer buffer
    statusRetryAttempts := ← Json.defaulted Json.word32? base.statusRetryAttempts statusAttempts
    writeAttempts := ← Json.defaulted Json.word32? base.writeAttempts writeAttempts }

/-- The endpoint policy of a class: its own, and where it leaves something open, ours. -/
def endpointPolicy (s : Settings) (params : Option GatewayConfigSpec) : EndpointPolicy where
  discovery := (params.bind (·.endpointDiscovery)).getD s.endpointDiscovery
  relayToClusterIp := (params.bind (·.relayToClusterIp)).getD s.relayToClusterIp

end Settings

end RelayFleet
