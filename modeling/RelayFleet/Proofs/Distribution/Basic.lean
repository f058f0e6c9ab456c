/-
Laws of the distributor. What is published last under a key is its latest document, whatever
subscribers do (`latest_publish` and the like). If every document that is published under a key has
a property, then so has every document that a subscriber of the key gets (`Sound.delivered`): no two
topics are ever mistaken for each other.
-/
import RelayFleet.Distribution.Basic
import RelayFleet.Proofs.SortedMap

namespace RelayFleet

/-! ## Topics -/

namespace Topic

theorem head?_publish (t : Topic) (c : Document) :
    (t.publish c).documents.head? = some c := by
  unfold publish
  split
  · assumption
  · rfl

theorem id_publish (t : Topic) (c : Document) : (t.publish c).id = t.id := by
  unfold publish
  split <;> rfl

theorem mem_publish {t : Topic} {c x : Document} (h : x ∈ (t.publish c).documents) :
    x = c ∨ x ∈ t.documents := by
  unfold publish at h
  split at h
  · exact .inr h
  · exact List.mem_cons.1 h

theorem mem_of_latest? {t : Topic} {u : ConfigUpdate} (h : t.latest? = some u) :
    u.config ∈ t.documents := by
  obtain ⟨c, hc, rfl⟩ := Option.map_eq_some_iff.1 h
  exact List.mem_of_head? hc

theorem mem_of_update? {t : Topic} {version : Nat} {u : ConfigUpdate}
    (h : t.update? version = some u) : u.config ∈ t.documents := by
  unfold update? at h
  split at h
  · cases h
  · obtain ⟨c, hc, rfl⟩ := Option.map_eq_some_iff.1 h
    exact List.mem_reverse.1 (List.mem_of_getElem? hc)

end Topic

/-! ## Subscriptions -/

namespace Subscription

/-- A subscription as it is after it was asked for what is next, as far as its place is concerned. -/
structure Kept (s s' : Subscription) : Prop where
  key : s'.key = s.key
  topic : s'.topic = s.topic
  closed : s'.closed = s.closed
  initial : ∀ u, s'.initial = some u → s.initial = some u

variable {s s' : Subscription} {t : Topic} {x : Delivery}

theorem next_latest (h : s.nextLatest t = (x, s')) :
    s.Kept s' ∧ ∀ u, x = .update u → u.config ∈ t.documents := by
  unfold nextLatest at h
  split at h
  · rename_i u hu
    cases h
    refine ⟨⟨rfl, rfl, rfl, fun _ hi => hi⟩, ?_⟩
    rintro _ ⟨⟩
    exact Topic.mem_of_latest? (Option.filter_eq_some_iff.1 hu).1
  · cases h
    refine ⟨⟨rfl, rfl, rfl, fun _ hi => hi⟩, fun u hu => ?_⟩
    unfold idle at hu
    split at hu <;> cases hu

theorem next_retained (h : s.nextRetained t = (x, s')) :
    s.Kept s' ∧ ∀ u, x = .update u → u.config ∈ t.documents := by
  unfold nextRetained at h
  simp only at h
  split at h
  · rename_i u hu
    cases h
    refine ⟨⟨rfl, rfl, rfl, fun _ hi => hi⟩, ?_⟩
    rintro _ ⟨⟩
    exact Topic.mem_of_update? hu
  · cases h
    refine ⟨⟨rfl, rfl, rfl, fun _ hi => hi⟩, fun u hu => ?_⟩
    unfold idle at hu
    split at hu <;> cases hu

theorem Kept.taking {n : Nat} (h : Kept { s with taken := n } s') : s.Kept s' :=
  ⟨h.key, h.topic, h.closed, h.initial⟩

theorem next_every {retained : Nat} (h : s.nextEvery retained t = (x, s')) :
    s.Kept s' ∧ ∀ u, x = .update u → u.config ∈ t.documents ∨ s.initial = some u := by
  unfold nextEvery at h
  split at h
  · rename_i u hu
    cases h
    refine ⟨⟨rfl, rfl, rfl, by rintro _ ⟨⟩⟩, ?_⟩
    rintro _ ⟨⟩
    exact .inr hu
  · split at h
    · simp only at h
      split at h
      · rename_i u hu
        cases h
        refine ⟨⟨rfl, rfl, rfl, fun _ hi => hi⟩, ?_⟩
        rintro _ ⟨⟩
        exact .inl (Topic.mem_of_latest? (Option.filter_eq_some_iff.1 hu).1)
      · obtain ⟨hkept, hmem⟩ := next_retained h
        exact ⟨hkept.taking, fun u hu => .inl (hmem u hu)⟩
    · obtain ⟨hkept, hmem⟩ := next_retained h
      exact ⟨hkept, fun u hu => .inl (hmem u hu)⟩

/-- A subscriber gets documents of its topic, or the one that was there when it came. -/
theorem next_cases (s : Subscription) (retained : Nat) (t : Topic) :
    s.Kept (s.next retained t).2 ∧
      ∀ u, (s.next retained t).1 = .update u → u.config ∈ t.documents ∨ s.initial = some u := by
  unfold next
  split
  · obtain ⟨hkept, hmem⟩ := next_latest (s := s) (t := t) Prod.mk.eta.symm
    exact ⟨hkept, fun u hu => .inl (hmem u hu)⟩
  · exact next_every Prod.mk.eta.symm

end Subscription

namespace Distributor

/-! ## Latest documents -/

/-- The latest document of a key. -/
def config? (d : Distributor) (key : ObjectKey) : Option Document :=
  (d.latest? key).map (·.config)

theorem config?_eq (d : Distributor) (key : ObjectKey) :
    d.config? key = (d.topics.get? key).bind (·.documents.head?) := by
  unfold config? latest?
  cases d.topics.get? key with
  | none => rfl
  | some t =>
    show (t.documents.head?.map _).map _ = _
    rw [Option.map_map]
    exact Option.map_id'

theorem config?_congr {d d' : Distributor} (h : d'.topics = d.topics) (key : ObjectKey) :
    d'.config? key = d.config? key := by
  rw [config?_eq, config?_eq, h]

theorem get?_topicOf (d : Distributor) (key : ObjectKey) :
    (d.topicOf key).2.topics.get? key = some (d.topicOf key).1 := by
  unfold topicOf
  split
  · assumption
  · exact SortedMap.get?_insert_self _ _ _

theorem get?_topicOf_of_ne (d : Distributor) {key k : ObjectKey} (h : k ≠ key) :
    (d.topicOf key).2.topics.get? k = d.topics.get? k := by
  unfold topicOf
  split
  · rfl
  · exact SortedMap.get?_insert_of_ne _ _ h

theorem config?_topicOf (d : Distributor) (key k : ObjectKey) :
    (d.topicOf key).2.config? k = d.config? k := by
  unfold topicOf
  split
  · rfl
  · rename_i hnone
    rw [config?_eq, config?_eq]
    by_cases hk : k = key
    · subst hk
      show ((d.topics.insert k _).get? k).bind _ = _
      rw [SortedMap.get?_insert_self, hnone]
      rfl
    · show ((d.topics.insert key _).get? k).bind _ = _
      rw [SortedMap.get?_insert_of_ne _ _ hk]

theorem config?_publish (d : Distributor) (key : ObjectKey) (c : Document) (k : ObjectKey) :
    (d.publish key c).2.config? k = if k = key then some c else d.config? k := by
  rw [config?_eq]
  show (((d.topicOf key).2.topics.insert key ((d.topicOf key).1.publish c)).get? k).bind _ = _
  split
  · rename_i hk
    rw [hk, SortedMap.get?_insert_self]
    exact Topic.head?_publish _ _
  · rename_i hk
    rw [SortedMap.get?_insert_of_ne _ _ hk, get?_topicOf_of_ne d hk, config?_eq]

theorem config?_remove (d : Distributor) (key k : ObjectKey) :
    (d.remove key).config? k = if k = key then none else d.config? k := by
  unfold remove
  split
  · rename_i hnone
    split
    · rename_i hk
      rw [config?_eq, hk, hnone]
      rfl
    · rfl
  · rw [config?_eq, config?_eq]
    show ((d.topics.erase key).get? k).bind _ = _
    split
    · rename_i hk
      rw [hk, SortedMap.get?_erase_self]
      rfl
    · rename_i hk
      rw [SortedMap.get?_erase_of_ne _ hk]

theorem config?_subscribe (d : Distributor) (key : ObjectKey) (policy : DeliveryPolicy)
    (k : ObjectKey) : (d.subscribe key policy).2.config? k = d.config? k :=
  (config?_congr (d := (d.topicOf key).2) rfl k).trans (config?_topicOf d key k)

theorem topics_next (d : Distributor) (number : Nat) : (d.next number).2.topics = d.topics := by
  unfold next
  split
  · rfl
  · split <;> rfl

theorem config?_unsubscribe (d : Distributor) (number : Nat) (k : ObjectKey) :
    (d.unsubscribe number).config? k = d.config? k := by
  unfold unsubscribe
  split
  · rfl
  · rename_i s hs
    simp only
    split
    · rename_i t ht
      split
      · rename_i hforsaken
        rw [config?_eq, config?_eq]
        show ((d.topics.erase s.key).get? k).bind _ = _
        by_cases hk : k = s.key
        · have hempty : t.documents = [] := by
            have := hforsaken.2
            unfold isForsaken Topic.version at this
            simp only [Bool.and_eq_true, decide_eq_true_eq] at this
            exact List.length_eq_zero_iff.1 this.1
          rw [hk, SortedMap.get?_erase_self, ht, Option.bind_some, hempty]
          rfl
        · rw [SortedMap.get?_erase_of_ne _ hk]
      · rfl
    · rfl

/-! ## Documents with a property -/

/-- Whether all documents that subscribers of a key may still get have a property. Topics and
subscriptions stay apart by the numbers of topics, which are never used twice. -/
structure Sound (P : ObjectKey → Document → Prop) (d : Distributor) : Prop where
  fresh : ∀ k t, d.topics.get? k = some t → t.id < d.nextTopic
  apart : ∀ k t k' t', d.topics.get? k = some t → d.topics.get? k' = some t' → t.id = t'.id → k = k'
  old : ∀ n s, d.subscriptions.get? n = some s → s.topic < d.nextTopic
  joined : ∀ n s, d.subscriptions.get? n = some s → ∀ k t, d.topics.get? k = some t →
    t.id = s.topic → k = s.key
  documents : ∀ k t, d.topics.get? k = some t → ∀ c ∈ t.documents, P k c
  closed : ∀ n s, d.subscriptions.get? n = some s → ∀ t, s.closed = some t →
    ∀ c ∈ t.documents, P s.key c
  initial : ∀ n s, d.subscriptions.get? n = some s → ∀ u, s.initial = some u → P s.key u.config

variable {P Q : ObjectKey → Document → Prop} {d : Distributor}

theorem Sound.start (buffer : Nat) : Sound P { buffer } where
  fresh _ _ h := by cases h
  apart _ _ _ _ h := by cases h
  old _ _ h := by cases h
  joined _ _ h := by cases h
  documents _ _ h := by cases h
  closed _ _ h := by cases h
  initial _ _ h := by cases h

theorem Sound.mono (h : Sound P d) (hPQ : ∀ k c, P k c → Q k c) : Sound Q d where
  fresh := h.fresh
  apart := h.apart
  old := h.old
  joined := h.joined
  documents k t ht c hc := hPQ _ _ (h.documents k t ht c hc)
  closed n s hs t ht c hc := hPQ _ _ (h.closed n s hs t ht c hc)
  initial n s hs u hu := hPQ _ _ (h.initial n s hs u hu)

theorem Sound.topicOf (h : Sound P d) (key : ObjectKey) : Sound P (d.topicOf key).2 := by
  unfold Distributor.topicOf
  split
  · exact h
  · rename_i hnone
    -- a topic of the new map is the new one, or an old one under another key;
    -- the new one has a number that no topic and no subscription has had
    refine ⟨?_, ?_, ?_, ?_, ?_, h.closed, h.initial⟩
    · intro k t ht
      rcases SortedMap.get?_insert_cases ht with ⟨-, rfl⟩ | ⟨-, ht⟩
      · exact Nat.lt_succ_self _
      · exact Nat.lt_succ_of_lt (h.fresh k t ht)
    · intro k t k' t' ht ht' hid
      rcases SortedMap.get?_insert_cases ht with ⟨hk, rfl⟩ | ⟨-, hold⟩ <;>
        rcases SortedMap.get?_insert_cases ht' with ⟨hk', rfl⟩ | ⟨-, hold'⟩
      · rw [hk, hk']
      · have := h.fresh k' t' hold'
        simp only at hid
        omega
      · have := h.fresh k t hold
        simp only at hid
        omega
      · exact h.apart k t k' t' hold hold' hid
    · intro n s hs
      exact Nat.lt_succ_of_lt (h.old n s hs)
    · intro n s hs k t ht hid
      rcases SortedMap.get?_insert_cases ht with ⟨rfl, rfl⟩ | ⟨-, ht⟩
      · have := h.old n s hs
        simp only at hid
        omega
      · exact h.joined n s hs k t ht hid
    · intro k t ht c hc
      rcases SortedMap.get?_insert_cases ht with ⟨rfl, rfl⟩ | ⟨-, ht⟩
      · cases hc
      · exact h.documents k t ht c hc

theorem Sound.publish (h : Sound P d) {key : ObjectKey} {c : Document} (hc : P key c) :
    Sound P (d.publish key c).2 := by
  have h₁ := h.topicOf key
  have htopic := get?_topicOf d key
  -- the published topic takes the place of the topic of the key, under the same number
  have hcases : ∀ k t,
      ((d.topicOf key).2.topics.insert key ((d.topicOf key).1.publish c)).get? k = some t →
        ∃ t₀, (d.topicOf key).2.topics.get? k = some t₀ ∧ t.id = t₀.id ∧
          ∀ x ∈ t.documents, k = key ∧ x = c ∨ x ∈ t₀.documents := by
    intro k t ht
    rcases SortedMap.get?_insert_cases ht with ⟨rfl, rfl⟩ | ⟨-, hold⟩
    · refine ⟨_, htopic, Topic.id_publish _ _, fun x hx => ?_⟩
      exact (Topic.mem_publish hx).imp_left fun hx => ⟨rfl, hx⟩
    · exact ⟨t, hold, rfl, fun x hx => .inr hx⟩
  refine ⟨?_, ?_, h₁.old, ?_, ?_, h₁.closed, h₁.initial⟩
  · intro k t ht
    obtain ⟨t₀, ht₀, hid, -⟩ := hcases k t ht
    rw [hid]
    exact h₁.fresh k t₀ ht₀
  · intro k t k' t' ht ht' hsame
    obtain ⟨t₀, ht₀, hid, -⟩ := hcases k t ht
    obtain ⟨t₀', ht₀', hid', -⟩ := hcases k' t' ht'
    exact h₁.apart k t₀ k' t₀' ht₀ ht₀' (hid.symm.trans (hsame.trans hid'))
  · intro n s hs k t ht hsame
    obtain ⟨t₀, ht₀, hid, -⟩ := hcases k t ht
    exact h₁.joined n s hs k t₀ ht₀ (hid.symm.trans hsame)
  · intro k t ht x hx
    obtain ⟨t₀, ht₀, -, hmem⟩ := hcases k t ht
    rcases hmem x hx with ⟨rfl, rfl⟩ | hx
    · exact hc
    · exact h₁.documents k t₀ ht₀ x hx

theorem Sound.remove (h : Sound P d) {key : ObjectKey} (hc : P key Document.empty) :
    Sound P (d.remove key) := by
  unfold Distributor.remove
  split
  · exact h
  · rename_i t ht
    have htopics : ∀ k x, (d.topics.erase key).get? k = some x → d.topics.get? k = some x :=
      fun k x hx => (SortedMap.get?_of_get?_erase hx).2
    -- a subscription is what it was, unless it was made on the closed topic
    have hsubs : ∀ n s', (d.subscriptions.map fun s =>
        if s.topic = t.id then { s with closed := some (t.publish Document.empty) } else s).get? n =
          some s' → ∃ s, d.subscriptions.get? n = some s ∧ s'.key = s.key ∧ s'.topic = s.topic ∧
            s'.initial = s.initial ∧ (s'.closed = s.closed ∨
              t.id = s.topic ∧ s'.closed = some (t.publish Document.empty)) := by
      intro n s' hs'
      rw [SortedMap.get?_map, Option.map_eq_some_iff] at hs'
      obtain ⟨s, hs, rfl⟩ := hs'
      refine ⟨s, hs, ?_⟩
      split
      · rename_i hid
        exact ⟨rfl, rfl, rfl, .inr ⟨hid.symm, rfl⟩⟩
      · exact ⟨rfl, rfl, rfl, .inl rfl⟩
    refine ⟨?_, ?_, ?_, ?_, ?_, ?_, ?_⟩
    · exact fun k x hx => h.fresh k x (htopics k x hx)
    · exact fun k x k' x' hx hx' => h.apart k x k' x' (htopics k x hx) (htopics k' x' hx')
    · intro n s' hs'
      obtain ⟨s, hs, -, htopic, -⟩ := hsubs n s' hs'
      rw [htopic]
      exact h.old n s hs
    · intro n s' hs' k x hx hid
      obtain ⟨s, hs, hkey, htopic, -⟩ := hsubs n s' hs'
      rw [hkey]
      exact h.joined n s hs k x (htopics k x hx) (hid.trans htopic)
    · exact fun k x hx => h.documents k x (htopics k x hx)
    · intro n s' hs' x hx c hc'
      obtain ⟨s, hs, hkey, -, -, hclosed | ⟨hid, hclosed⟩⟩ := hsubs n s' hs'
      · rw [hkey]
        exact h.closed n s hs x (hclosed.symm.trans hx) c hc'
      · -- the topic that was closed is the one of the subscription's own key
        have hsame : key = s.key := h.joined n s hs key t ht hid
        rw [hclosed] at hx
        cases hx
        rw [hkey, ← hsame]
        rcases Topic.mem_publish hc' with rfl | hmem
        · exact hc
        · exact h.documents key t ht c hmem
    · intro n s' hs' u hu
      obtain ⟨s, hs, hkey, -, hinitial, -⟩ := hsubs n s' hs'
      rw [hkey]
      exact h.initial n s hs u (hinitial ▸ hu)

theorem Sound.subscribe (h : Sound P d) (key : ObjectKey) (policy : DeliveryPolicy) :
    Sound P (d.subscribe key policy).2 := by
  have h₁ := h.topicOf key
  have htopic := get?_topicOf d key
  have hsubs : ∀ n s', ((d.topicOf key).2.subscriptions.insert (d.topicOf key).2.nextSubscription
      { key, policy, topic := (d.topicOf key).1.id, initial := (d.topicOf key).1.latest?,
        taken := (d.topicOf key).1.version }).get? n = some s' →
      (s'.key = key ∧ s'.topic = (d.topicOf key).1.id ∧ s'.closed = none ∧
        s'.initial = (d.topicOf key).1.latest?) ∨
      (d.topicOf key).2.subscriptions.get? n = some s' := by
    intro n s' hs'
    rcases SortedMap.get?_insert_cases hs' with ⟨-, rfl⟩ | ⟨-, hs⟩
    · exact .inl ⟨rfl, rfl, rfl, rfl⟩
    · exact .inr hs
  refine ⟨h₁.fresh, h₁.apart, ?_, ?_, h₁.documents, ?_, ?_⟩
  · intro n s' hs'
    rcases hsubs n s' hs' with ⟨-, hid, -⟩ | hs
    · rw [hid]
      exact h₁.fresh key _ htopic
    · exact h₁.old n s' hs
  · intro n s' hs' k t ht hid
    rcases hsubs n s' hs' with ⟨hkey, htop, -⟩ | hs
    · rw [hkey]
      exact h₁.apart k t key _ ht htopic (hid.trans htop)
    · exact h₁.joined n s' hs k t ht hid
  · intro n s' hs' t ht
    rcases hsubs n s' hs' with ⟨-, -, hclosed, -⟩ | hs
    · rw [hclosed] at ht
      cases ht
    · exact h₁.closed n s' hs t ht
  · intro n s' hs' u hu
    rcases hsubs n s' hs' with ⟨hkey, -, -, hinitial⟩ | hs
    · rw [hkey]
      rw [hinitial] at hu
      exact h₁.documents key _ htopic _ (Topic.mem_of_latest? hu)
    · exact h₁.initial n s' hs u hu

/-- Whoever asks for what is next leaves the distributor sound. -/
theorem Sound.next (h : Sound P d) (number : Nat) : Sound P (d.next number).2 := by
  unfold Distributor.next
  split
  · exact h
  · rename_i s hs
    split
    · exact h
    · rename_i t ht
      obtain ⟨hkept, -⟩ := Subscription.next_cases s d.retained t
      have hsubs : ∀ n x,
          (d.subscriptions.insert number (s.next d.retained t).2).get? n = some x →
            ∃ s₀, d.subscriptions.get? n = some s₀ ∧ s₀.Kept x := by
        intro n x hx
        rcases SortedMap.get?_insert_cases hx with ⟨rfl, rfl⟩ | ⟨-, hold⟩
        · exact ⟨s, hs, hkept⟩
        · exact ⟨x, hold, rfl, rfl, rfl, fun _ hi => hi⟩
      refine ⟨h.fresh, h.apart, ?_, ?_, h.documents, ?_, ?_⟩
      · intro n x hx
        obtain ⟨s₀, hs₀, hk⟩ := hsubs n x hx
        rw [hk.topic]
        exact h.old n s₀ hs₀
      · intro n x hx k t' ht' hid
        obtain ⟨s₀, hs₀, hk⟩ := hsubs n x hx
        rw [hk.key]
        exact h.joined n s₀ hs₀ k t' ht' (hid.trans hk.topic)
      · intro n x hx t' ht' c hc
        obtain ⟨s₀, hs₀, hk⟩ := hsubs n x hx
        rw [hk.key]
        exact h.closed n s₀ hs₀ t' (hk.closed.symm.trans ht') c hc
      · intro n x hx u hu
        obtain ⟨s₀, hs₀, hk⟩ := hsubs n x hx
        rw [hk.key]
        exact h.initial n s₀ hs₀ u (hk.initial u hu)

theorem Sound.unsubscribe (h : Sound P d) (number : Nat) : Sound P (d.unsubscribe number) := by
  have hsubs : ∀ n x, (d.subscriptions.erase number).get? n = some x →
      d.subscriptions.get? n = some x := fun n x hx => (SortedMap.get?_of_get?_erase hx).2
  have hleft : Sound P { d with subscriptions := d.subscriptions.erase number } :=
    ⟨h.fresh, h.apart, fun n x hx => h.old n x (hsubs n x hx),
      fun n x hx => h.joined n x (hsubs n x hx), h.documents,
      fun n x hx => h.closed n x (hsubs n x hx), fun n x hx => h.initial n x (hsubs n x hx)⟩
  unfold Distributor.unsubscribe
  split
  · exact h
  · rename_i s hs
    simp only
    split
    · split
      · have htopics : ∀ k x, (d.topics.erase s.key).get? k = some x →
            d.topics.get? k = some x := fun k x hx => (SortedMap.get?_of_get?_erase hx).2
        exact ⟨fun k x hx => hleft.fresh k x (htopics k x hx),
          fun k x k' x' hx hx' => hleft.apart k x k' x' (htopics k x hx) (htopics k' x' hx'),
          hleft.old, fun n x hx k t ht => hleft.joined n x hx k t (htopics k t ht),
          fun k x hx => hleft.documents k x (htopics k x hx), hleft.closed, hleft.initial⟩
      · exact hleft
    · exact hleft

/-- What a subscriber gets has the property of what is published under its key. -/
theorem Sound.delivered (h : Sound P d) {number : Nat} {u : ConfigUpdate}
    (hu : (d.next number).1 = .update u) :
    ∃ s, d.subscriptions.get? number = some s ∧ P s.key u.config := by
  unfold Distributor.next at hu
  split at hu
  · cases hu
  · rename_i s hs
    refine ⟨s, hs, ?_⟩
    split at hu
    · cases hu
    · rename_i t ht
      have hdocuments : ∀ c ∈ t.documents, P s.key c := by
        rcases hclosed : s.closed with - | t'
        · rw [hclosed] at ht
          exact h.documents s.key t ht
        · rw [hclosed] at ht
          cases ht
          exact h.closed number s hs t hclosed
      obtain ⟨-, hmem⟩ := Subscription.next_cases s d.retained t
      rcases hmem u hu with hc | hinitial
      · exact hdocuments _ hc
      · exact h.initial number s hs u hinitial

end Distributor

end RelayFleet
