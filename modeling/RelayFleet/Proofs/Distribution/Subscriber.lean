/-
A subscriber with its topic beside it. A view is followed through any sequence of calls to the
distributor: it keeps what the topic came to, what the subscriber was given, and how far it has read
the channels of the topic. Whatever the calls are, as long as the subscription is held, the
distributor has it where its view says, on the topic that it was made on (`Follows.after`).
-/
import RelayFleet.Proofs.Distribution.Channel
import RelayFleet.Proofs.Distribution.Versions

namespace RelayFleet

/-! ## A view -/

namespace Delivery

/-- The update that is delivered. -/
def update? : Delivery → Option ConfigUpdate
  | update u => some u
  | pending => none
  | ended => none

end Delivery

/-- A subscription with what its topic came to and what it was given. -/
structure Viewing where
  distributor : Distributor
  number : Nat
  key : ObjectKey
  policy : DeliveryPolicy
  /-- The latest version when it was made, or zero. -/
  since : Nat
  /-- The updates of the topic, oldest first. -/
  topic : List ConfigUpdate
  closed : Bool := false
  /-- What the subscriber was given, in order. -/
  given : List ConfigUpdate := []
  /-- The subscriber as a reader of the channels of the topic. -/
  reader : Reader

namespace Viewing

/-- A new subscription to a key, after what was published under the key so far. -/
def subscribed (h : Chronicle) (key : ObjectKey) (policy : DeliveryPolicy) : Viewing where
  distributor := (h.distributor.subscribe key policy).2
  number := (h.distributor.subscribe key policy).1
  key := key
  policy := policy
  since := ((h.distributor.latest? key).map (·.version)).getD 0
  topic := h.current
  reader := { initial := h.current.getLast?, position := h.current.length }

/-- What the subscriber would get if it asked. -/
def next (v : Viewing) : Delivery := (v.distributor.next v.number).1

/-- The channels of the topic. -/
def channels (v : Viewing) : Channels := .ofUpdates v.distributor.retained v.topic v.closed

/-- The view after a call. What is published under the key after the topic was closed is not in the
topic. -/
def after (v : Viewing) (c : DistributorCall) : Viewing where
  distributor := v.distributor.called c
  number := v.number
  key := v.key
  policy := v.policy
  since := v.since
  topic := if v.closed then v.topic else v.topic ++ (v.distributor.creates? v.key c).toList
  closed := v.closed || c = .remove v.key
  given := if c = .next v.number then v.given ++ v.next.update?.toList else v.given
  reader := if c = .next v.number then (v.reader.read v.policy v.channels).2 else v.reader

/-- The view after calls, one after the other. -/
def afterAll (v : Viewing) (cs : List DistributorCall) : Viewing := cs.foldl after v

/-- The view of who subscribed after some calls to a new distributor, after further calls. -/
def ofCalls (buffer : Nat) (past : List DistributorCall) (key : ObjectKey) (policy : DeliveryPolicy)
    (cs : List DistributorCall) : Viewing :=
  (subscribed (.ofCalls buffer key past) key policy).afterAll cs

variable {v : Viewing} {s : Subscription} {t : Topic} {c : DistributorCall}

theorem reader_after_of_ne (h : c ≠ .next v.number) : (v.after c).reader = v.reader := if_neg h

theorem given_after_of_ne (h : c ≠ .next v.number) : (v.after c).given = v.given := if_neg h

theorem given_after_update {u : ConfigUpdate} (hu : v.next = .update u) :
    (v.after (.next v.number)).given = v.given ++ [u] := by
  show (if _ = _ then v.given ++ v.next.update?.toList else _) = _
  rw [if_pos rfl, hu]
  rfl

theorem given_after_done (hx : ∀ u, v.next ≠ .update u) :
    (v.after (.next v.number)).given = v.given := by
  show (if _ = _ then v.given ++ v.next.update?.toList else _) = _
  rw [if_pos rfl]
  cases hn : v.next with
  | update u => exact absurd hn (hx u)
  | pending => exact List.append_nil _
  | ended => exact List.append_nil _

theorem topic_after_next (v : Viewing) (n : Nat) : (v.after (.next n)).topic = v.topic := by
  show (if v.closed = true then v.topic else v.topic ++ []) = v.topic
  rw [List.append_nil, ite_self]

/-! ## The subscription of a view -/

/-- Whether a subscription stands where its view says, on a topic that lives or was closed. -/
structure Follows (v : Viewing) (s : Subscription) (t : Topic) : Prop where
  sound : v.distributor.Sound fun _ _ => True
  number : v.number < v.distributor.nextSubscription
  found : v.distributor.subscriptions.get? v.number = some s
  key : s.key = v.key
  policy : s.policy = v.policy
  id : t.id = s.topic
  topic : t.updates = v.topic
  live : v.closed = false → s.closed = none ∧ v.distributor.topics.get? v.key = some t
  ended : v.closed = true → s.closed = some t ∧ t.documents.head? = some Document.empty ∧
    ∀ k t', v.distributor.topics.get? k = some t' → t'.id ≠ s.topic
  reader : s.reader = v.reader
  placed : s.Placed t

namespace Follows

theorem isSome_closed (h : v.Follows s t) : s.closed.isSome = v.closed := by
  cases hc : v.closed with
  | false => rw [(h.live hc).1, Option.isSome_none]
  | true => rw [(h.ended hc).1, Option.isSome_some]

/-- The subscriber asks its own topic. -/
theorem next_eq (h : v.Follows s t) :
    v.distributor.next v.number = ((s.next v.distributor.retained t).1,
      { v.distributor with
        subscriptions := v.distributor.subscriptions.insert v.number
          (s.next v.distributor.retained t).2 }) := by
  refine Distributor.next_of_get? h.found ?_
  cases hc : v.closed with
  | false =>
    obtain ⟨hnone, ht⟩ := h.live hc
    rw [hnone, h.key]
    exact ht
  | true => rw [(h.ended hc).1, Option.orElse_some]

theorem counted (h : v.Follows s t) : Counted v.topic := h.topic ▸ t.counted_updates

theorem outcome (h : v.Follows s t) :
    s.Outcome v.distributor.retained t v.next (s.next v.distributor.retained t).2 := by
  rw [Viewing.next, h.next_eq]
  exact Subscription.outcome_next h.placed _

theorem read (h : v.Follows s t) :
    v.reader.read v.policy v.channels =
      (v.next, (s.next v.distributor.retained t).2.reader) := by
  rw [Viewing.next, h.next_eq, Subscription.next_eq_read h.placed, h.reader, h.policy, h.topic,
    h.isSome_closed]
  rfl

theorem reader_after_next (h : v.Follows s t) :
    (v.after (.next v.number)).reader = (s.next v.distributor.retained t).2.reader := by
  show (if _ = _ then _ else _) = _
  rw [if_pos rfl, h.read]

/-- The start of a view. -/
theorem subscribed {h : Chronicle} {key : ObjectKey} (hsound : h.distributor.Sound fun _ _ => True)
    (hcurrent : h.current = h.distributor.updates key) (policy : DeliveryPolicy) :
    ∃ s t, (subscribed h key policy).Follows s t := by
  have htopic : (h.distributor.topicOf key).1.updates = h.current :=
    (Distributor.updates_of_topicOf h.distributor key).trans hcurrent.symm
  have hreader : (Viewing.subscribed h key policy).reader =
      { initial := (h.distributor.topicOf key).1.latest?
        position := (h.distributor.topicOf key).1.version } := by
    rw [Viewing.subscribed, ← htopic, Topic.getLast?_updates, Topic.length_updates]
  exact ⟨_, (h.distributor.topicOf key).1,
    { sound := hsound.subscribe key policy
      number := Nat.lt_succ_self _
      found := SortedMap.get?_insert_self _ _ _
      key := rfl
      policy := rfl
      id := rfl
      topic := htopic
      live := fun _ => ⟨rfl, Distributor.get?_topicOf h.distributor key⟩
      ended := by rintro ⟨⟩
      reader := hreader.symm
      placed := Subscription.Placed.new (h.distributor.topicOf key).1 key policy }⟩

/-- The subscriber asks. -/
theorem after_next (h : v.Follows s t) :
    (v.after (.next v.number)).Follows (s.next v.distributor.retained t).2 t := by
  obtain ⟨hkept, -⟩ := Subscription.next_cases s v.distributor.retained t
  have hcalled : v.distributor.called (.next v.number) = { v.distributor with
      subscriptions := v.distributor.subscriptions.insert v.number
        (s.next v.distributor.retained t).2 } := congrArg Prod.snd h.next_eq
  refine
    { sound := h.sound.called (.next v.number)
      number := h.number.trans_le (Distributor.called_counts ..).2
      found := ?found
      key := hkept.key.trans h.key
      policy := h.outcome.policy.trans h.policy
      id := h.id.trans hkept.topic.symm
      topic := h.topic.trans (topic_after_next v v.number).symm
      live := ?live
      ended := ?ended
      reader := h.reader_after_next.symm
      placed := h.outcome.placed h.placed }
  case found =>
    show (v.distributor.called _).subscriptions.get? v.number = _
    rw [hcalled]
    exact SortedMap.get?_insert_self _ _ _
  case live =>
    intro hc
    show _ ∧ (v.distributor.called _).topics.get? v.key = _
    rw [hcalled, hkept.closed]
    exact h.live (Bool.or_eq_false_iff.1 hc).1
  case ended =>
    intro hc
    have hclosed : v.closed = true := by simpa [Viewing.after] using hc
    show _ ∧ _ ∧ ∀ k t', (v.distributor.called _).topics.get? k = _ → _
    rw [hcalled, hkept.closed, hkept.topic]
    exact h.ended hclosed

theorem topic_after (h : v.Follows s t) {t' : Topic} (hopen : v.closed = false)
    (ht' : t'.updates = t.updates ++ (v.distributor.creates? v.key c).toList) :
    t'.updates = (v.after c).topic ∧ t.updates <+: t'.updates := by
  refine ⟨?_, ht' ▸ List.prefix_append ..⟩
  show _ = if v.closed = true then v.topic else _
  rw [if_neg (hopen ▸ Bool.false_ne_true), ← h.topic, ht']

/-- The topic of the subscriber is removed. -/
theorem after_remove (h : v.Follows s t) (hopen : v.closed = false) :
    ∃ s' t', (v.after (.remove v.key)).Follows s' t' := by
  obtain ⟨-, ht⟩ := h.live hopen
  obtain ⟨htopic, hgrown⟩ := h.topic_after hopen (Distributor.updates_publish_empty ht)
  have hfresh : ∀ k t', (v.distributor.called (.remove v.key)).topics.get? k = some t' →
      t'.id ≠ s.topic := by
    intro k t' ht' hid
    have hremoved : (v.distributor.called (.remove v.key)).topics =
        v.distributor.topics.erase v.key := by
      show (v.distributor.remove v.key).topics = _
      rw [Distributor.remove, ht]
    rw [hremoved] at ht'
    obtain ⟨hne, hold⟩ := SortedMap.get?_of_get?_erase ht'
    exact hne ((h.sound.joined _ _ h.found k t' hold hid).trans h.key)
  exact ⟨_, t.publish .empty,
    { sound := h.sound.called (.remove v.key)
      number := h.number.trans_le (Distributor.called_counts ..).2
      found := Distributor.get?_subscriptions_remove ht h.found h.id.symm
      key := h.key
      policy := h.policy
      id := (Topic.id_publish t _).trans h.id
      topic := htopic
      live := by simp [Viewing.after]
      ended := fun _ => ⟨rfl, Topic.head?_publish t _, hfresh⟩
      reader := h.reader.trans (reader_after_of_ne (by rintro ⟨⟩)).symm
      placed := (h.placed.mono hgrown).close _ }⟩

/-- Others ask for something. -/
theorem after_other (h : v.Follows s t) (hnext : c ≠ .next v.number)
    (hleave : c ≠ .leave v.number) (hremove : v.closed = false → c ≠ .remove v.key) :
    ∃ t', (v.after c).Follows s t' := by
  have hreader := h.reader.trans (reader_after_of_ne hnext).symm
  have hnumber := h.number.trans_le (Distributor.called_counts v.distributor c).2
  cases hclosed : v.closed with
  | false =>
    have hother := hremove hclosed
    obtain ⟨hs, ht⟩ := h.live hclosed
    obtain ⟨t', ht', hid, hupdates⟩ :=
      Distributor.exists_topic_called ht h.found h.id.symm hother hleave
    obtain ⟨htopic, hgrown⟩ := h.topic_after hclosed hupdates
    have hfound := Distributor.get?_subscriptions_called h.found h.number hnext hleave
      fun k u hc hu hid => hother (hc.trans (congrArg _
        ((h.sound.joined _ _ h.found k u hu hid).trans h.key)))
    have hstill : (v.after c).closed = false := by simp [Viewing.after, hclosed, hother]
    exact ⟨t',
      { sound := h.sound.called c
        number := hnumber
        found := hfound
        key := h.key
        policy := h.policy
        id := hid.trans h.id
        topic := htopic
        live := fun _ => ⟨hs, ht'⟩
        ended := fun hc => absurd (hstill.symm.trans hc) Bool.false_ne_true
        reader := hreader
        placed := h.placed.mono hgrown }⟩
  | true =>
    obtain ⟨hs, hempty, horphan⟩ := h.ended hclosed
    have hfound := Distributor.get?_subscriptions_called h.found h.number hnext hleave
      fun k u _ hu => horphan k u hu
    have horphan' := Distributor.orphan_called horphan (h.sound.old _ _ h.found) c
    have hstill : (v.after c).closed = true := by simp [Viewing.after, hclosed]
    have htopic : (v.after c).topic = v.topic := if_pos hclosed
    exact ⟨t,
      { sound := h.sound.called c
        number := hnumber
        found := hfound
        key := h.key
        policy := h.policy
        id := h.id
        topic := h.topic.trans htopic.symm
        live := fun hc => absurd (hc.symm.trans hstill) Bool.false_ne_true
        ended := fun _ => ⟨hs, hempty, horphan'⟩
        reader := hreader
        placed := h.placed }⟩

theorem after (h : v.Follows s t) (hleave : c ≠ .leave v.number) :
    ∃ s' t', (v.after c).Follows s' t' := by
  by_cases hnext : c = .next v.number
  · subst hnext
    exact ⟨_, t, h.after_next⟩
  · by_cases hremove : v.closed = false ∧ c = .remove v.key
    · obtain ⟨hopen, rfl⟩ := hremove
      exact h.after_remove hopen
    · exact ⟨s, h.after_other hnext hleave fun hopen hc => hremove ⟨hopen, hc⟩⟩

end Follows

end Viewing

end RelayFleet
