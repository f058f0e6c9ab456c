/-
The watch of one kind at the API server. A session lists the objects of the kind, then follows their
changes from the version of the list. A response that ends is resumed at the last version seen. A
version that the server no longer knows sends the session back to the list, and so does a change
without a version. After a failure the watch pauses before it goes on, the longer the more failures
there are in a row.
-/
import RelayFleet.Api.Refusal
import RelayFleet.Backoff
import RelayFleet.Watch.Event
import RelayFleet.Store.Basic

namespace RelayFleet

/-- A line of a watch response. -/
inductive WatchLine where
  | added (object : Object)
  | modified (object : Object)
  | deleted (object : Object)
  /-- Nothing but a newer version. -/
  | bookmark (version : String)
  | failed (code : Nat)
  | unreadable

namespace WatchLine

/-- Reads the version of a bookmark: an object that says no more of what it is about than its API
version and its kind. -/
def bookmarkVersion? (j : Json) : Option String := do
  let .obj _ := j | none
  let [apiVersion, kind, metadata] ← j.strict? ["apiVersion", "kind", "metadata"] | none
  let _ ← [apiVersion, kind].mapM (Json.needed Json.text?)
  let [version, annotations] ← (← metadata).strict? ["resourceVersion", "annotations"] | none
  let _ ← Json.defaulted Labels.ofJson? ∅ annotations
  Json.needed Json.text? version

/-- A line of a type, about a value that was read after the type or before it. -/
def ofType? (how : Json.Reading) (kind : ObjectKind) (object : Json) : String → Option WatchLine
  | "ADDED" => (Object.ofJson? how kind object).map added
  | "MODIFIED" => (Object.ofJson? how kind object).map modified
  | "DELETED" => (Object.ofJson? how kind object).map deleted
  | "BOOKMARK" => (bookmarkVersion? object).map bookmark
  | "ERROR" => (ApiRefusal.ofJson? object).map (failed ·.code.toNat)
  | _ => none

/-- Reads a line of the watch of a kind: an object, in which the type comes last, or a type and a
value. -/
def ofJson (kind : ObjectKind) (j : Json) : WatchLine :=
  let named (type : Json) : Option String := type.choice? .direct some
  let line? : Option WatchLine :=
    match j with
    | .arr [type, object] => (named type).bind (ofType? .direct kind object)
    | .obj _ => ((j.get? "type").bind named).bind
        (ofType? .deferred kind ((j.get? "object").getD .null))
    | _ => none
  line?.getD unreadable

end WatchLine

/-- Where the watch of a kind is. -/
inductive WatchSession where
  /-- The objects have to be listed. -/
  | starting
  /-- The changes since a version have to be asked for. -/
  | resuming (version : String)
  /-- A response is being read. -/
  | following (version : String)
deriving DecidableEq, Inhabited

/-- What comes of something that the API server says. -/
structure WatchNews where
  events : List WatchEvent := []
  /-- Whether it is a failure. -/
  failed : Bool := false
  /-- Where the watch is afterwards. -/
  session : WatchSession

namespace WatchSession

/-- The code of a version that the server no longer knows. -/
def gone : Nat := 410

/-- Takes in a list of all objects at a version. -/
def list (version : String) (objects : List Object) : WatchNews :=
  { events := .listBegan :: objects.map .listed ++ [.listEnded], session := .resuming version }

/-- Takes in a list that does not read. -/
def unreadableList : WatchNews := { events := [.listBegan], failed := true, session := .starting }

/-- Reports a change, unless its object has no version to go on from. -/
def change (o : Object) (event : WatchEvent) : WatchNews :=
  match o.resourceVersion.filter (· ≠ "") with
  | some version => { events := [event], session := .following version }
  | none => { failed := true, session := .starting }

/-- Takes in a line of a response; no line comes before a response is asked for. -/
def line : WatchSession → WatchLine → WatchNews
  | following _, .added o => change o (.applied o)
  | following _, .modified o => change o (.applied o)
  | following _, .deleted o => change o (.deleted o)
  | following _, .bookmark version => { session := .following version }
  | following version, .failed code =>
    { failed := true, session := if code = gone then .starting else .following version }
  | following version, .unreadable => { failed := true, session := .following version }
  | session, _ => { session }

/-- Where the watch is after a response has ended: it is resumed, unless the objects have to be
listed. -/
def ended : WatchSession → WatchSession
  | following version => resuming version
  | session => session

end WatchSession

/-! ## Watchers -/

/-- What keeps the store up to date with one kind: where its watch is, how often it has failed in a
row, and the objects of a list that is not complete. -/
structure Watcher where
  kind : ObjectKind
  relist : List Object := []
  session : WatchSession := .starting
  failures : Nat := 0

namespace Watcher

/-- Which objects of a kind are asked for: only secrets with certificates, all of other kinds. -/
def selector? : ObjectKind → Option String
  | .secret => some "type=kubernetes.io/tls"
  | _ => none

/-- Tells the store of an event. An object that the store refuses stays out of it. -/
def tell (w : Watcher) (store : Store) (event : WatchEvent) : Watcher × Store :=
  let (change, relist) := event.toStoreEvent w.kind w.relist
  ({ w with relist }, match change with
    | some change => (store.apply change).2
    | none => store)

/-- How the pauses after failures grow. -/
def backoff : Backoff := { first := 800000000, longest := 30000000000 }

/-- Tells the store of news, and goes on from where the watch is then. An event ends a row of
failures. -/
def take (w : Watcher) (store : Store) (news : WatchNews) : Watcher × Store :=
  let (w, store) := news.events.foldl (fun (w, store) event => w.tell store event) (w, store)
  let failures := if news.events.isEmpty then w.failures else 0
  ({ w with session := news.session
            failures := if news.failed then failures + 1 else failures }, store)

end Watcher

end RelayFleet
