/-
A rehearsal of watching. For each kind it is written down which lists the API server returns, one
after the other and the last of them again and again, and what it responds to the watches, each of
which ends after its last line. With no response left a watch stays open and says nothing. Only
pauses take time.
-/
import RelayFleet.Watch.Session
import RelayFleet.Api.Collection

namespace RelayFleet

/-- What the API server has to say about one kind. -/
structure WatchScript where
  lists : List (List Json) := []
  responses : List (List Json) := []

namespace WatchScript

/-- The next list. -/
def nextList (s : WatchScript) : List Json × WatchScript :=
  match s.lists with
  | [] => ([], s)
  | [items] => (items, s)
  | items :: rest => (items, { s with lists := rest })

/-- The version of every list. -/
def listVersion : String := "1"

/-- Writes what is asked of the API server to watch a kind. -/
def requestJson (kind : ObjectKind) : String × Json :=
  let c := ApiCollection.ofKind kind
  (c.plural, .obj [("path", .str (c.path none)),
    ("tlsOnly", .bool (Watcher.selector? kind).isSome)])

end WatchScript

/-- A rehearsal under way, and the nanoseconds that pauses have taken so far. -/
structure WatchRehearsal where
  script : WatchScript
  watcher : Watcher
  store : Store
  elapsed : Nat := 0

namespace WatchRehearsal

/-- How long is watched: two minutes. -/
def duration : Nat := 120000000000

/-- How long a watch pauses after some failures in a row. Chance makes a pause up to twice as long;
here it takes the middle. -/
def pauseAfter (failures : Nat) : Nat := Watcher.backoff.pause (failures - 1) * 3 / 2

/-- Takes in news, and pauses after a failure. -/
def take (r : WatchRehearsal) (news : WatchNews) : WatchRehearsal :=
  let (watcher, store) := r.watcher.take r.store news
  let pause := if news.failed then pauseAfter watcher.failures else 0
  { r with watcher, store, elapsed := r.elapsed + pause }

/-- Reads a line, if there is time for it. -/
def line (r : WatchRehearsal) (j : Json) : WatchRehearsal :=
  if r.elapsed < duration then
    r.take (r.watcher.session.line (WatchLine.ofJson r.watcher.kind j))
  else r

/-- Reads a response at a version. -/
def response (r : WatchRehearsal) (version : String) (lines : List Json) : WatchRehearsal :=
  let r := lines.foldl line { r with watcher := { r.watcher with session := .following version } }
  { r with watcher := { r.watcher with session := r.watcher.session.ended } }

/-- Asks for a list. -/
def list (r : WatchRehearsal) : WatchRehearsal :=
  let (items, script) := r.script.nextList
  { r with script }.take <|
    match items.mapM (Object.ofJson? .direct r.watcher.kind) with
    | some objects => WatchSession.list WatchScript.listVersion objects
    | none => WatchSession.unreadableList

/-- Watches for a number of requests, while there is time. -/
def watch : Nat → WatchRehearsal → WatchRehearsal
  | 0, r => r
  | n + 1, r =>
    if duration ≤ r.elapsed then r
    else
      match r.watcher.session with
      | .starting => watch n r.list
      | .resuming version =>
        match r.script.responses with
        | [] => r
        | lines :: rest =>
          watch n ({ r with script := { r.script with responses := rest } }.response version lines)
      | .following _ => r

/-- How many requests there is time for: a watch for every response, a list before each of them and
one to begin with, and the lists that do not read, each of which costs a pause. -/
def requests (s : WatchScript) : Nat := 2 * s.responses.length + 2 + duration / pauseAfter 1

/-- The store after watching every kind. -/
def watchAll (script : ObjectKind → WatchScript) : Store :=
  ObjectKind.all.foldl
    (fun store kind =>
      (watch (requests (script kind)) { script := script kind, watcher := { kind }, store }).store)
    {}

end WatchRehearsal

end RelayFleet
