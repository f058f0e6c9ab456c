/-
What the operator asks of its surroundings: writes to the cluster, which may fail, pauses between
them, and news for the subscribers of a document.
-/
import RelayFleet.Workload.Manifest
import RelayFleet.Workload.Wire
import RelayFleet.Document.Wire
import RelayFleet.Retry
import RelayFleet.Settings

namespace RelayFleet

/-- A stored configuration document and the gateways it belongs to. -/
structure Artifact where
  key : ObjectKey
  config : Document := Document.empty
  owners : List GatewayOwner := []
deriving DecidableEq, Inhabited

/-- Writes an artifact without its key. -/
def Artifact.toJson (a : Artifact) : Json :=
  .obj [("config", a.config.toJson), ("owners", .list GatewayOwner.toJson a.owners)]

/-- A write to the cluster. -/
inductive ClusterWrite where
  | addFinalizer (gateway : ObjectKey) (finalizer : String)
  | removeFinalizer (gateway : ObjectKey) (finalizer : String)
  | applyWorkload (workload : Workload)
  /-- The workload of a gateway has to go; it need not be there. -/
  | deleteWorkload (gateway : ObjectKey)
  | applyArtifact (artifact : Artifact)
  /-- An artifact has to go; it need not be there. -/
  | deleteArtifact (key : ObjectKey)
deriving DecidableEq, Inhabited

namespace ClusterWrite

/-- The name of a write. -/
def name : ClusterWrite → String
  | addFinalizer .. => "add_finalizer"
  | removeFinalizer .. => "remove_finalizer"
  | applyWorkload _ => "apply_workload"
  | deleteWorkload _ => "delete_workload"
  | applyArtifact _ => "apply_artifact"
  | deleteArtifact _ => "delete_artifact"

/-- What a write says besides its key, if anything. -/
def detail? : ClusterWrite → Option Json
  | addFinalizer _ finalizer => some (.str finalizer)
  | removeFinalizer _ finalizer => some (.str finalizer)
  | applyWorkload workload => some workload.toJson
  | deleteWorkload _ => none
  | applyArtifact artifact => some artifact.toJson
  | deleteArtifact _ => none

/-- The key that a write is about: that of a gateway or of an artifact. -/
def key : ClusterWrite → ObjectKey
  | addFinalizer gateway _ => gateway
  | removeFinalizer gateway _ => gateway
  | applyWorkload workload => workload.gateway
  | deleteWorkload gateway => gateway
  | applyArtifact artifact => artifact.key
  | deleteArtifact key => key

end ClusterWrite

/-- What the operator asks of its surroundings. -/
inductive OperatorCall where
  | write (w : ClusterWrite)
  /-- A number of nanoseconds shall pass. -/
  | pause (nanoseconds : Nat)
  /-- The subscribers of a key are told of a document. -/
  | publish (key : ObjectKey) (config : Document)
  /-- The subscribers of a key are told that its document is gone. -/
  | retire (key : ObjectKey)
deriving DecidableEq, Inhabited

/-- What a call of the operator is answered with. -/
abbrev OperatorCall.Reply : OperatorCall → Type
  | write _ => Except Fault Unit
  | pause _ => Unit
  | publish .. => Unit
  | retire _ => Unit

/-- A program that makes calls of the operator. -/
abbrev OperatorProgram := Program OperatorCall OperatorCall.Reply

namespace OperatorProgram

/-- Lets the pause after a number of other pauses pass. -/
def pause (settings : Settings) (others : Nat) : OperatorProgram Unit :=
  .ask (.pause (settings.writeBackoff.pause others)) .done

/-- Makes a write, again and again while it may help, up to the attempts that are set. -/
def write (settings : Settings) (w : ClusterWrite) : OperatorProgram (Except Fault Unit) :=
  Retry.transient settings.writeAttempts (pause settings) (.ask (.write w) .done)

/-- Tells the subscribers of a key of a document. -/
def publish (key : ObjectKey) (config : Document) : OperatorProgram Unit :=
  .ask (.publish key config) .done

/-- Tells the subscribers of a key that its document is gone. -/
def retire (key : ObjectKey) : OperatorProgram Unit := .ask (.retire key) .done

end OperatorProgram

end RelayFleet
