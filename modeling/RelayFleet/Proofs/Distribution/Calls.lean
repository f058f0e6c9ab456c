/-
The calls to a distributor, and what each of them does. As long as the topic of a key lives its
updates are added to, and a document that is the newest one already adds nothing. A topic that
somebody subscribed to goes only if its key is removed, and its number never comes back. A
subscription changes when its subscriber asks for what is next and when its topic is removed, and
stays as it is while others ask for something.
-/
import RelayFleet.Proofs.Distribution.Basic

namespace RelayFleet

/-! ## Updates of a topic -/

namespace Topic

/-- The updates of a topic, oldest first. -/
def updates (t : Topic) : List ConfigUpdate := t.documents.reverse.mapIdx fun i c => ⟨i + 1, c⟩

theorem length_updates (t : Topic) : t.updates.length = t.version := by
  simp only [updates, version, List.length_mapIdx, List.length_reverse]

theorem getElem?_updates (t : Topic) (i : Nat) : t.updates[i]? = t.update? (i + 1) := by
  rw [updates, List.getElem?_mapIdx, update?, if_neg (Nat.succ_ne_zero i), Nat.add_sub_cancel]

theorem versions_updates (t : Topic) : t.updates.map (·.version) = List.range' 1 t.version := by
  have hlength : (t.updates.map (·.version)).length = (List.range' 1 t.version).length := by
    rw [List.length_map, length_updates, List.length_range']
  refine List.ext_getElem hlength fun i h _ => ?_
  rw [List.getElem_map, List.getElem_range']
  simp only [updates, List.getElem_mapIdx]
  omega

theorem getLast?_updates (t : Topic) : t.updates.getLast? = t.latest? := by
  unfold updates latest? version
  cases t.documents with
  | nil => rfl
  | cons c rest => simp [List.mapIdx_append]

/-- The update that publishing a document makes, if it is not the newest one. -/
def addition? (t : Topic) (c : Document) : Option ConfigUpdate :=
  if t.documents.head? = some c then none else some ⟨t.version + 1, c⟩

theorem updates_publish (t : Topic) (c : Document) :
    (t.publish c).updates = t.updates ++ (t.addition? c).toList := by
  unfold publish addition?
  split
  · rw [Option.toList_none, List.append_nil]
  · simp only [updates, version, List.reverse_cons, List.mapIdx_append, List.mapIdx_singleton,
      Option.toList_some, List.length_reverse, Nat.zero_add]

theorem version_of_addition? {t : Topic} {c : Document} {u : ConfigUpdate}
    (h : t.addition? c = some u) :
    u = ⟨(t.publish c).version, c⟩ ∧ u.version = t.updates.length + 1 := by
  unfold addition? at h
  split at h
  · cases h
  · rename_i hnew
    obtain rfl := Option.some.inj h
    rw [length_updates, publish, if_neg hnew]
    exact ⟨rfl, rfl⟩

theorem latest?_publish (t : Topic) (c : Document) :
    (t.publish c).latest? = (t.addition? c).or t.latest? := by
  unfold addition? publish
  split
  · rfl
  · rfl

theorem addition?_ne_latest? {t : Topic} {c : Document} {u : ConfigUpdate}
    (h : t.addition? c = some u) : t.latest? ≠ some u := by
  intro hlatest
  obtain ⟨x, -, rfl⟩ := Option.map_eq_some_iff.1 hlatest
  have hversion := (version_of_addition? h).2
  rw [length_updates] at hversion
  exact absurd hversion (Nat.succ_ne_self _).symm

end Topic

/-! ## Calls -/

/-- What a distributor is asked for. -/
inductive DistributorCall where
  | publish (key : ObjectKey) (config : Document)
  | remove (key : ObjectKey)
  | subscribe (key : ObjectKey) (policy : DeliveryPolicy)
  | next (number : Nat)
  | leave (number : Nat)
deriving DecidableEq

namespace Distributor

/-- The distributor after a call. -/
def called (d : Distributor) : DistributorCall → Distributor
  | .publish key config => (d.publish key config).2
  | .remove key => d.remove key
  | .subscribe key policy => (d.subscribe key policy).2
  | .next number => (d.next number).2
  | .leave number => d.unsubscribe number

theorem topicOf_cases (d : Distributor) (key : ObjectKey) :
    (∃ t, d.topics.get? key = some t ∧ d.topicOf key = (t, d)) ∨
    d.topics.get? key = none ∧ d.topicOf key = ({ id := d.nextTopic }, { d with
      topics := d.topics.insert key { id := d.nextTopic }
      nextTopic := d.nextTopic + 1 }) := by
  unfold topicOf
  split
  · rename_i t ht
    exact .inl ⟨t, ht, rfl⟩
  · rename_i hnone
    exact .inr ⟨hnone, rfl⟩

theorem topicOf_of_get? {d : Distributor} {key : ObjectKey} {t : Topic}
    (ht : d.topics.get? key = some t) : d.topicOf key = (t, d) := by
  unfold topicOf
  rw [ht]

theorem remove_cases (d : Distributor) (key : ObjectKey) :
    d.topics.get? key = none ∧ d.remove key = d ∨
    ∃ t, d.topics.get? key = some t ∧ d.remove key = { d with
      topics := d.topics.erase key
      subscriptions := d.subscriptions.map fun s =>
        if s.topic = t.id then { s with closed := some (t.publish .empty) } else s } := by
  unfold remove
  split
  · rename_i hnone
    exact .inl ⟨hnone, rfl⟩
  · rename_i t ht
    exact .inr ⟨t, ht, rfl⟩

theorem after_next_cases (d : Distributor) (number : Nat) :
    (d.next number).2 = d ∨
    ∃ s, (d.next number).2 = { d with subscriptions := d.subscriptions.insert number s } := by
  unfold next
  split
  · exact .inl rfl
  · split
    · exact .inl rfl
    · exact .inr ⟨_, rfl⟩

/-- With a subscription its topic goes, if it has no update and no other subscriber. -/
theorem unsubscribe_cases (d : Distributor) (number : Nat) :
    d.unsubscribe number = d ∨
    d.unsubscribe number = { d with subscriptions := d.subscriptions.erase number } ∨
    ∃ key t, d.topics.get? key = some t ∧ t.version = 0 ∧
      (∀ n s, (d.subscriptions.erase number).get? n = some s → s.topic ≠ t.id) ∧
      d.unsubscribe number = { d with
        topics := d.topics.erase key
        subscriptions := d.subscriptions.erase number } := by
  unfold unsubscribe
  split
  · exact .inl rfl
  · rename_i s hs
    right
    simp only
    split
    · rename_i t ht
      split
      · rename_i hforsaken
        obtain ⟨-, hforsaken⟩ := hforsaken
        simp only [isForsaken, Bool.and_eq_true, decide_eq_true_eq, List.isEmpty_iff,
          subscribersOf] at hforsaken
        refine .inr ⟨s.key, t, ht, hforsaken.1, fun n x hx hid => ?_, rfl⟩
        have hmem := SortedMap.mem_values_iff.2 ⟨n, hx⟩
        exact List.filter_eq_nil_iff.1 hforsaken.2 x hmem (decide_eq_true hid)
      · exact .inl rfl
    · exact .inl rfl

/-- The update that publishing a document creates under a key: the latest one afterwards, if it was
not the latest one before. -/
def created? (d : Distributor) (key : ObjectKey) (config : Document) : Option ConfigUpdate :=
  if (d.publish key config).2.latest? key = d.latest? key then none
  else (d.publish key config).2.latest? key

/-- The update that a call creates under a key. A topic that is removed gets the empty document
first. -/
def creates? (d : Distributor) (key : ObjectKey) : DistributorCall → Option ConfigUpdate
  | .publish key' config => if key' = key then d.created? key config else none
  | .remove key' =>
    if key' = key ∧ d.topics.contains key then d.created? key Document.empty else none
  | .subscribe .. => none
  | .next _ => none
  | .leave _ => none

/-- The updates of a key's topic, oldest first. -/
def updates (d : Distributor) (key : ObjectKey) : List ConfigUpdate :=
  ((d.topics.get? key).map (·.updates)).getD []

theorem updates_of_get? {d : Distributor} {key : ObjectKey} {t : Topic}
    (h : d.topics.get? key = some t) : d.updates key = t.updates := by
  rw [updates, h, Option.map_some, Option.getD_some]

theorem updates_of_none {d : Distributor} {key : ObjectKey} (h : d.topics.get? key = none) :
    d.updates key = [] := by
  rw [updates, h, Option.map_none, Option.getD_none]

theorem latest?_eq (d : Distributor) (key : ObjectKey) :
    d.latest? key = (d.updates key).getLast? := by
  unfold latest? updates
  cases d.topics.get? key with
  | none => rfl
  | some t => exact (Topic.getLast?_updates t).symm

theorem updates_topicOf (d : Distributor) (key k : ObjectKey) :
    (d.topicOf key).2.updates k = d.updates k := by
  rcases topicOf_cases d key with ⟨t, -, hsame⟩ | ⟨hnone, hnew⟩
  · rw [hsame]
  · rw [hnew]
    by_cases hk : k = key
    · subst hk
      rw [updates_of_none hnone, updates_of_get? (SortedMap.get?_insert_self _ _ _)]
      rfl
    · unfold updates
      show (((d.topics.insert key _).get? k).map _).getD [] = _
      rw [SortedMap.get?_insert_of_ne _ _ hk]

theorem updates_of_topicOf (d : Distributor) (key : ObjectKey) :
    (d.topicOf key).1.updates = d.updates key := by
  rw [← updates_topicOf d key, updates_of_get? (get?_topicOf d key)]

theorem get?_publish_self (d : Distributor) (key : ObjectKey) (c : Document) :
    (d.publish key c).2.topics.get? key = some ((d.topicOf key).1.publish c) :=
  SortedMap.get?_insert_self _ _ _

theorem get?_publish_of_ne (d : Distributor) {key k : ObjectKey} (c : Document) (h : k ≠ key) :
    (d.publish key c).2.topics.get? k = d.topics.get? k :=
  (SortedMap.get?_insert_of_ne _ _ h).trans (get?_topicOf_of_ne d h)

theorem created?_eq (d : Distributor) (key : ObjectKey) (c : Document) :
    d.created? key c = (d.topicOf key).1.addition? c := by
  have hbefore : d.latest? key = (d.topicOf key).1.latest? := by
    rw [latest?_eq, ← updates_of_topicOf, Topic.getLast?_updates]
  have hafter : (d.publish key c).2.latest? key =
      ((d.topicOf key).1.addition? c).or (d.topicOf key).1.latest? := by
    rw [← Topic.latest?_publish, latest?, get?_publish_self, Option.bind_some]
  unfold created?
  rw [hbefore, hafter]
  cases hadd : (d.topicOf key).1.addition? c with
  | none => exact if_pos Option.none_or
  | some u =>
    rw [Option.some_or]
    exact if_neg (Topic.addition?_ne_latest? hadd).symm

theorem updates_publish (d : Distributor) (key : ObjectKey) (c : Document) (k : ObjectKey) :
    (d.publish key c).2.updates k =
      d.updates k ++ (if key = k then d.created? k c else none).toList := by
  by_cases hk : key = k
  · subst hk
    rw [if_pos rfl, updates_of_get? (get?_publish_self d key c), Topic.updates_publish,
      updates_of_topicOf, created?_eq]
  · rw [if_neg hk, Option.toList_none, List.append_nil, updates, updates,
      get?_publish_of_ne d c (Ne.symm hk)]

theorem version_of_created? {d : Distributor} {key : ObjectKey} {c : Document} {u : ConfigUpdate}
    (h : d.created? key c = some u) :
    u = ⟨(d.publish key c).1, c⟩ ∧ u.version = (d.updates key).length + 1 := by
  rw [created?_eq] at h
  rw [← updates_of_topicOf]
  exact Topic.version_of_addition? h

theorem updates_congr {d d' : Distributor} (h : d'.topics = d.topics) (k : ObjectKey) :
    d'.updates k = d.updates k := by
  rw [updates, updates, h]

theorem updates_erase (d : Distributor) (key k : ObjectKey) (subs : SortedMap Nat Subscription) :
    updates { d with topics := d.topics.erase key, subscriptions := subs } k =
      if key = k then [] else d.updates k := by
  unfold updates
  show (((d.topics.erase key).get? k).map _).getD [] = _
  split
  · rename_i hk
    rw [hk, SortedMap.get?_erase_self]
    rfl
  · rename_i hk
    rw [SortedMap.get?_erase_of_ne _ (Ne.symm hk)]

theorem updates_remove (d : Distributor) (key k : ObjectKey) :
    (d.remove key).updates k = if key = k then [] else d.updates k := by
  rcases remove_cases d key with ⟨hnone, hsame⟩ | ⟨t, -, hremoved⟩
  · rw [hsame]
    split
    · rename_i hk
      exact updates_of_none (hk ▸ hnone)
    · rfl
  · rw [hremoved, updates_erase]

/-- A subscription that is dropped takes no update with it: a topic only goes if it has none. -/
theorem updates_unsubscribe (d : Distributor) (number : Nat) (k : ObjectKey) :
    (d.unsubscribe number).updates k = d.updates k := by
  rcases unsubscribe_cases d number with hsame | hleft | ⟨key, t, ht, hzero, -, hgone⟩
  · rw [hsame]
  · exact updates_congr (by rw [hleft]) k
  · rw [hgone, updates_erase]
    split
    · rename_i hk
      have hempty : t.updates.length = 0 := t.length_updates.trans hzero
      rw [updates_of_get? (hk ▸ ht), List.length_eq_zero_iff.1 hempty]
    · rfl

/-- A call creates what it publishes. -/
theorem of_creates? {d : Distributor} {k : ObjectKey} {c : DistributorCall} {u : ConfigUpdate}
    (h : d.creates? k c = some u) :
    (c = .publish k u.config ∨ c = .remove k ∧ u.config = Document.empty) ∧
      u.version = (d.updates k).length + 1 := by
  cases c with
  | publish key config =>
    rw [creates?] at h
    split at h
    · rename_i hk
      obtain ⟨hu, hversion⟩ := version_of_created? h
      exact ⟨.inl (by rw [hu, hk]), hversion⟩
    · cases h
  | remove key =>
    rw [creates?] at h
    split at h
    · rename_i hk
      obtain ⟨hu, hversion⟩ := version_of_created? h
      exact ⟨.inr ⟨by rw [hk.1], by rw [hu]⟩, hversion⟩
    · cases h
  | subscribe key policy => cases h
  | next number => cases h
  | leave number => cases h

/-- What a call does to the updates of a key's topic: it may create one more, and a removal closes
the topic. -/
theorem updates_called (d : Distributor) (k : ObjectKey) (c : DistributorCall) :
    (d.called c).updates k =
      if c = .remove k then [] else d.updates k ++ (d.creates? k c).toList := by
  cases c with
  | publish key config =>
    rw [if_neg (by rintro ⟨⟩)]
    exact updates_publish d key config k
  | remove key =>
    simp only [DistributorCall.remove.injEq]
    rw [called, updates_remove]
    split
    · rfl
    · rename_i hk
      rw [creates?, if_neg (fun h => hk h.1), Option.toList_none, List.append_nil]
  | subscribe key policy =>
    rw [if_neg (by rintro ⟨⟩), creates?, Option.toList_none, List.append_nil]
    exact (updates_congr (d := (d.topicOf key).2) rfl k).trans (updates_topicOf d key k)
  | next number =>
    rw [if_neg (by rintro ⟨⟩), creates?, Option.toList_none, List.append_nil]
    exact updates_congr (topics_next d number) k
  | leave number =>
    rw [if_neg (by rintro ⟨⟩), creates?, Option.toList_none, List.append_nil]
    exact updates_unsubscribe d number k

/-- A document that is the newest one of its key is not published again. -/
theorem publish_of_latest? {d : Distributor} {key : ObjectKey} {u : ConfigUpdate}
    (h : d.latest? key = some u) : d.publish key u.config = (u.version, d) := by
  obtain ⟨t, ht, hlatest⟩ := Option.bind_eq_some_iff.1 h
  obtain ⟨c, hc, rfl⟩ := Option.map_eq_some_iff.1 hlatest
  have htopic := topicOf_of_get? ht
  have hsame : t.publish c = t := by
    rw [Topic.publish, if_pos hc]
  have hinsert : d.topics.insert key t = d.topics := by
    refine SortedMap.ext_get? fun k => ?_
    rw [SortedMap.get?_insert]
    split
    · rename_i hk
      rw [hk, ht]
    · rfl
  rw [publish, htopic]
  simp only [hsame, hinsert]

/-! ## What calls do to a topic and to a subscription -/

variable {d : Distributor} {n : Nat} {s : Subscription} {t : Topic} {key : ObjectKey}
  {c : DistributorCall}

/-- What a topic is made for stays as it is. -/
theorem topicOf_counts (d : Distributor) (key : ObjectKey) :
    (d.topicOf key).2.subscriptions = d.subscriptions ∧ (d.topicOf key).2.buffer = d.buffer ∧
      (d.topicOf key).2.nextSubscription = d.nextSubscription := by
  rcases topicOf_cases d key with ⟨t, -, hsame⟩ | ⟨-, hnew⟩
  · rw [hsame]
    exact ⟨rfl, rfl, rfl⟩
  · rw [hnew]
    exact ⟨rfl, rfl, rfl⟩

/-- A subscriber asks its own topic: the one that was closed for it, or else the one of its key. -/
theorem next_of_get? (hs : d.subscriptions.get? n = some s)
    (ht : (s.closed.orElse fun _ => d.topics.get? s.key) = some t) :
    d.next n = ((s.next d.retained t).1,
      { d with subscriptions := d.subscriptions.insert n (s.next d.retained t).2 }) := by
  unfold next
  rw [hs]
  simp only [ht]

theorem called_counts (d : Distributor) (c : DistributorCall) :
    (d.called c).buffer = d.buffer ∧ d.nextSubscription ≤ (d.called c).nextSubscription := by
  cases c with
  | publish key config =>
    obtain ⟨-, hbuffer, hnumber⟩ := topicOf_counts d key
    exact ⟨hbuffer, hnumber.ge⟩
  | remove key =>
    rw [called]
    rcases remove_cases d key with ⟨-, hsame⟩ | ⟨t, -, hremoved⟩
    · rw [hsame]
      exact ⟨rfl, le_rfl⟩
    · rw [hremoved]
      exact ⟨rfl, le_rfl⟩
  | subscribe key policy =>
    obtain ⟨-, hbuffer, hnumber⟩ := topicOf_counts d key
    exact ⟨hbuffer, hnumber.ge.trans (Nat.le_succ _)⟩
  | next m =>
    rw [called]
    rcases after_next_cases d m with hsame | ⟨s, hnext⟩
    · rw [hsame]
      exact ⟨rfl, le_rfl⟩
    · rw [hnext]
      exact ⟨rfl, le_rfl⟩
  | leave m =>
    rw [called]
    rcases unsubscribe_cases d m with hsame | hleft | ⟨key, t, -, -, -, hgone⟩
    · rw [hsame]
      exact ⟨rfl, le_rfl⟩
    · rw [hleft]
      exact ⟨rfl, le_rfl⟩
    · rw [hgone]
      exact ⟨rfl, le_rfl⟩

theorem Sound.called (h : Sound (fun _ _ => True) d) (c : DistributorCall) :
    Sound (fun _ _ => True) (d.called c) := by
  cases c with
  | publish key config => exact h.publish trivial
  | remove key => exact h.remove trivial
  | subscribe key policy => exact h.subscribe key policy
  | next m => exact h.next m
  | leave m => exact h.unsubscribe m

/-- A topic that somebody subscribed to goes only if its key is removed. -/
theorem exists_topic_called (ht : d.topics.get? key = some t) (hs : d.subscriptions.get? n = some s)
    (hst : s.topic = t.id) (hremove : c ≠ .remove key) (hleave : c ≠ .leave n) :
    ∃ t', (d.called c).topics.get? key = some t' ∧ t'.id = t.id ∧
      t'.updates = t.updates ++ (d.creates? key c).toList := by
  have hsame : ∃ t', (d.called c).topics.get? key = some t' ∧ t'.id = t.id := by
    cases c with
    | publish k config =>
      by_cases hk : key = k
      · subst hk
        refine ⟨_, get?_publish_self d key config, ?_⟩
        rw [Topic.id_publish, topicOf_of_get? ht]
      · exact ⟨t, (get?_publish_of_ne d config hk).trans ht, rfl⟩
    | remove k =>
      have hk : key ≠ k := by
        rintro rfl
        exact hremove rfl
      refine ⟨t, ?_, rfl⟩
      rw [called]
      rcases remove_cases d k with ⟨-, hsame⟩ | ⟨u, -, hremoved⟩
      · rwa [hsame]
      · rw [hremoved]
        exact (SortedMap.get?_erase_of_ne _ hk).trans ht
    | subscribe k policy =>
      refine ⟨t, ?_, rfl⟩
      show (d.topicOf k).2.topics.get? key = some t
      by_cases hk : key = k
      · subst hk
        rw [topicOf_of_get? ht]
        exact ht
      · exact (get?_topicOf_of_ne d hk).trans ht
    | next m => exact ⟨t, topics_next d m ▸ ht, rfl⟩
    | leave m =>
      refine ⟨t, ?_, rfl⟩
      have hn : n ≠ m := by
        rintro rfl
        exact hleave rfl
      rw [called]
      rcases unsubscribe_cases d m with hsame | hleft | ⟨k, u, hu, -, hforsaken, hgone⟩
      · rwa [hsame]
      · rwa [hleft]
      · -- the topic that goes has no subscriber, so it is another one
        have hk : key ≠ k := by
          rintro rfl
          obtain rfl : t = u := Option.some.inj (ht.symm.trans hu)
          exact hforsaken n s ((SortedMap.get?_erase_of_ne _ hn).trans hs) hst
        rw [hgone]
        exact (SortedMap.get?_erase_of_ne _ hk).trans ht
  obtain ⟨t', ht', hid⟩ := hsame
  refine ⟨t', ht', hid, ?_⟩
  rw [← updates_of_get? ht', updates_called, if_neg hremove, updates_of_get? ht]

/-- The number of a topic is never used twice. -/
theorem orphan_called {i : Nat} (h : ∀ k t, d.topics.get? k = some t → t.id ≠ i)
    (hi : i < d.nextTopic) (c : DistributorCall) :
    ∀ k t, (d.called c).topics.get? k = some t → t.id ≠ i := by
  have htopicOf : ∀ key k t, (d.topicOf key).2.topics.get? k = some t → t.id ≠ i := by
    intro key k t ht
    rcases topicOf_cases d key with ⟨u, -, hsame⟩ | ⟨-, hnew⟩
    · rw [hsame] at ht
      exact h k t ht
    · rw [hnew] at ht
      rcases SortedMap.get?_insert_cases ht with ⟨-, rfl⟩ | ⟨-, hold⟩
      · exact hi.ne'
      · exact h k t hold
  intro k t ht
  cases c with
  | publish key config =>
    by_cases hk : k = key
    · subst hk
      obtain rfl := Option.some.inj ((get?_publish_self d k config).symm.trans ht)
      rw [Topic.id_publish]
      exact htopicOf k k _ (get?_topicOf d k)
    · exact h k t ((get?_publish_of_ne d config hk).symm.trans ht)
  | remove key =>
    rw [called] at ht
    rcases remove_cases d key with ⟨-, hsame⟩ | ⟨u, -, hremoved⟩
    · exact h k t (hsame ▸ ht)
    · rw [hremoved] at ht
      exact h k t (SortedMap.get?_of_get?_erase ht).2
  | subscribe key policy => exact htopicOf key k t ht
  | next m => exact h k t (topics_next d m ▸ ht)
  | leave m =>
    rw [called] at ht
    rcases unsubscribe_cases d m with hsame | hleft | ⟨key, u, -, -, -, hgone⟩
    · exact h k t (hsame ▸ ht)
    · rw [hleft] at ht
      exact h k t ht
    · rw [hgone] at ht
      exact h k t (SortedMap.get?_of_get?_erase ht).2

/-- What others ask for leaves a subscription as it is, unless its topic is removed. -/
theorem get?_subscriptions_called (hs : d.subscriptions.get? n = some s)
    (hn : n < d.nextSubscription) (hnext : c ≠ .next n) (hleave : c ≠ .leave n)
    (hremove : ∀ key t, c = .remove key → d.topics.get? key = some t → t.id ≠ s.topic) :
    (d.called c).subscriptions.get? n = some s := by
  have htopicOf : ∀ key, (d.topicOf key).2.subscriptions.get? n = some s := fun key =>
    (congrArg (·.get? n) (topicOf_counts d key).1).trans hs
  cases c with
  | publish key config => exact htopicOf key
  | remove key =>
    rw [called]
    rcases remove_cases d key with ⟨-, hsame⟩ | ⟨t, ht, hremoved⟩
    · rwa [hsame]
    · rw [hremoved]
      show (d.subscriptions.map _).get? n = some s
      rw [SortedMap.get?_map, hs, Option.map_some, if_neg (hremove key t rfl ht).symm]
  | subscribe key policy =>
    refine (SortedMap.get?_insert_of_ne _ _ ?_).trans (htopicOf key)
    exact (hn.trans_le (topicOf_counts d key).2.2.ge).ne
  | next m =>
    have hm : n ≠ m := by
      rintro rfl
      exact hnext rfl
    rw [called]
    rcases after_next_cases d m with hsame | ⟨x, hasked⟩
    · rwa [hsame]
    · rw [hasked]
      exact (SortedMap.get?_insert_of_ne _ _ hm).trans hs
  | leave m =>
    have hm : n ≠ m := by
      rintro rfl
      exact hleave rfl
    have hkept := (SortedMap.get?_erase_of_ne d.subscriptions hm).trans hs
    rw [called]
    rcases unsubscribe_cases d m with hsame | hleft | ⟨key, t, -, -, -, hgone⟩
    · rwa [hsame]
    · rwa [hleft]
    · rwa [hgone]

/-- The removal of a key closes its topic for who subscribed to it, with the empty document. -/
theorem get?_subscriptions_remove (ht : d.topics.get? key = some t)
    (hs : d.subscriptions.get? n = some s) (hst : s.topic = t.id) :
    (d.called (.remove key)).subscriptions.get? n =
      some { s with closed := some (t.publish .empty) } := by
  show (d.remove key).subscriptions.get? n = _
  unfold remove
  rw [ht]
  show (d.subscriptions.map _).get? n = _
  rw [SortedMap.get?_map, hs, Option.map_some, if_pos hst]

theorem updates_publish_empty (ht : d.topics.get? key = some t) :
    (t.publish .empty).updates = t.updates ++ (d.creates? key (.remove key)).toList := by
  have hcontains : d.topics.contains key = true := by
    rw [SortedMap.contains, ht]
    rfl
  rw [creates?, if_pos ⟨rfl, hcontains⟩, created?_eq, topicOf_of_get? ht, Topic.updates_publish]

end Distributor

end RelayFleet
