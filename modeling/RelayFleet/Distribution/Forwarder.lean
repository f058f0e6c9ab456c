/-
Connections over which updates are forwarded. A connection sends one text for every update of its
subscription, and a last frame once the topic is closed. It ends when the topic or the peer does, when
a frame does not get through, or when the peer breaks the rules, and its subscription ends with it.
Whatever else the peer sends changes nothing.
-/
import RelayFleet.Distribution.Http

namespace RelayFleet

/-- A frame that goes to the peer. -/
inductive ServerFrame where
  | text (update : ConfigUpdate)
  | pong (payload : String)
  | close
deriving DecidableEq, Inhabited

/-- What comes from the peer. -/
inductive PeerFrame where
  | text (payload : String)
  | binary (payload : List UInt8)
  | ping (payload : String)
  | pong (payload : String)
  | close
  /-- The peer is gone. -/
  | gone
deriving DecidableEq, Inhabited

/-- A connection. -/
structure Connection where
  subscription : Nat
  running : Bool := true
  /-- The frames that were sent, oldest first. -/
  sent : List ServerFrame := []
deriving DecidableEq, Inhabited

namespace Connection

/-- Opens a connection over which a key is watched. -/
def connect (d : Distributor) (key : ObjectKey) (policy : DeliveryPolicy) :
    Connection × Distributor :=
  let (number, d) := d.subscribe key policy
  ({ subscription := number }, d)

/-- Sends a frame. -/
def send (c : Connection) (frame : ServerFrame) : Connection := { c with sent := c.sent ++ [frame] }

/-- Ends a connection and its subscription. -/
def stop (c : Connection) (d : Distributor) : Connection × Distributor :=
  ({ c with running := false }, d.unsubscribe c.subscription)

/-- Takes what is next on the subscription and sends it, if frames get through. The last answer says
whether there was something to send that did. -/
def forward (c : Connection) (d : Distributor) (through : Bool := true) :
    Connection × Distributor × Bool :=
  if c.running then
    match d.next c.subscription with
    | (.update u, d) =>
      if through then (c.send (.text u), d, true)
      else
        let (c, d) := c.stop d
        (c, d, false)
    | (.pending, d) => (c, d, false)
    | (.ended, d) =>
      let (c, d) := (if through then c.send .close else c).stop d
      (c, d, false)
  else (c, d, false)

/-- Forwards for as long as there is something to send, a number of updates at most. -/
def forwardUpTo : Nat → Connection → Distributor → Connection × Distributor
  | 0, c, d => (c, d)
  | n + 1, c, d =>
    match c.forward d with
    | (c, d, true) => forwardUpTo n c d
    | (c, d, false) => (c, d)

/-- The number of updates that can still be sent on a connection, and a few more. -/
def backlog (c : Connection) (d : Distributor) : Nat :=
  match d.subscriptions.get? c.subscription with
  | none => 1
  | some s => (((s.closed.orElse fun _ => d.topics.get? s.key).map (·.version)).getD 0) + 2

/-- Forwards until there is nothing to send. -/
def forwardAll (c : Connection) (d : Distributor) : Connection × Distributor :=
  forwardUpTo (c.backlog d) c d

/-- How many bytes a ping may carry, or the answer to one. -/
def maxPing : Nat := 125

/-- Takes in what comes from the peer. -/
def receive (c : Connection) (d : Distributor) (frame : PeerFrame) : Connection × Distributor :=
  if c.running then
    match frame with
    | .text _ => (c, d)
    | .binary _ => (c, d)
    | .pong payload => if payload.utf8ByteSize ≤ maxPing then (c, d) else c.stop d
    | .ping payload =>
      if payload.utf8ByteSize ≤ maxPing then (c.send (.pong payload), d) else c.stop d
    | .close => c.stop d
    | .gone => c.stop d
  else (c, d)

end Connection

end RelayFleet
