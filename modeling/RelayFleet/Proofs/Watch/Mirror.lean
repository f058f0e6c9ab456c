/-
The store mirrors what the watch of a kind lists (`mirrors_listing`). A list is held back until it is
complete, and what was listed is what came since a list last began or ended, whatever else was
reported in between. Taking it in is the same as its steps one by one, and leaves of the kind the
keys that were listed.
-/
import RelayFleet.Watch.Session
import RelayFleet.Proofs.Store.Relist
import Mathlib.Data.List.DropRight

namespace RelayFleet

/-! ## What is listed -/

namespace WatchEvent

/-- Whether a list begins or ends with an event, so that nothing before it is part of the next. -/
def restarts : WatchEvent → Bool
  | listBegan | listEnded => true
  | applied _ | deleted _ | listed _ => false

/-- The object of an event, if it is one of a list. -/
def listed? : WatchEvent → Option Object
  | listed o => some o
  | applied _ | deleted _ | listBegan | listEnded => none

/-- The objects that were listed since a list last began or ended, or from the start if none has. -/
def listing (events : List WatchEvent) : List Object :=
  (events.rtakeWhile fun e => ! e.restarts).filterMap listed?

theorem listing_concat (events : List WatchEvent) (e : WatchEvent) :
    listing (events ++ [e]) = if e.restarts then [] else listing events ++ e.listed?.toList := by
  unfold listing
  split
  · rename_i hrestarts
    rw [List.rtakeWhile_concat_neg _ _ _ (by simp [hrestarts])]
    rfl
  · rename_i hgoes
    rw [List.rtakeWhile_concat_pos _ _ _ (by simp [hgoes]), List.filterMap_append]
    cases e <;> rfl

end WatchEvent

/-! ## Watchers -/

namespace Watcher

/-- Tells the store of events, one after another. -/
def tellAll (w : Watcher) (store : Store) (events : List WatchEvent) : Watcher × Store :=
  events.foldl (fun (w, store) event => w.tell store event) (w, store)

variable {store : Store} {events : List WatchEvent}

/-- The store is told of all events of news. -/
theorem take_snd (w : Watcher) (news : WatchNews) :
    (w.take store news).2 = (w.tellAll store news.events).2 := rfl

theorem tellAll_concat (w : Watcher) (store : Store) (e : WatchEvent) :
    w.tellAll store (events ++ [e]) =
      (w.tellAll store events).1.tell (w.tellAll store events).2 e := by
  unfold tellAll
  rw [List.foldl_append]
  rfl

/-- What a watcher holds back is what was listed. -/
theorem tellAll_fst (w : Watcher) (store : Store) (events : List WatchEvent) :
    (tellAll { w with relist := [] } store events).1 =
      { w with relist := WatchEvent.listing events } := by
  induction events using List.reverseRecOn with
  | nil => rfl
  | append_singleton events e ih =>
    rw [tellAll_concat, ih, WatchEvent.listing_concat]
    cases e <;> simp [tell, WatchEvent.toStoreEvent, WatchEvent.restarts, WatchEvent.listed?]

/-- Taking in a list comes to the same as putting in what may be held of it, in order, and taking out
what is stored and not listed. So whatever the watch of a kind reports, when a list is complete the
store has of the kind the keys of the objects without a flaw that were listed since a list last began
or ended, or from the start. -/
theorem mirrors_listing (store : Store) :
    (∀ kind objects, store.Relists kind objects) ∧
    ∀ (w : Watcher) (events : List WatchEvent) (k : ObjectKey),
      k ∈ (tellAll { w with relist := [] } store (events ++ [.listEnded])).2.snapshot.keys w.kind ↔
        ∃ o ∈ WatchEvent.listing events, o.kind = w.kind ∧ o.flaw? = none ∧ o.key = k := by
  refine ⟨store.relists, fun w events k => ?_⟩
  rw [tellAll_concat, tellAll_fst]
  show k ∈ (Store.apply _ (.replace w.kind (WatchEvent.listing events))).2.snapshot.keys w.kind ↔ _
  rw [(Store.relists _ w.kind (WatchEvent.listing events)).same.keys, Store.mem_keys_after_steps]

/-- Routes that were reported while a list was under way go, and so do objects of other kinds. -/
example :
    (tellAll { kind := .udpRoute } .empty [
      .applied (Store.routeNamed "r1"), .listed (Store.routeNamed "r2"), .listBegan,
      .listed (Store.routeNamed "r3"), .applied (Store.routeNamed "r4"),
      .listed (.secret { metadata := { name := some "r5", inNamespace := some "a" } }),
      .listEnded]).2.snapshot.keys .udpRoute = [.namespaced "a" "r3"] := by
  decide +kernel

end Watcher

end RelayFleet
