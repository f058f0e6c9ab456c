/-
The registry of topics over every sequence of calls to a distributor. A topic is told from the other
topics that its key ever had by the moment at which it was made. What history says about topics and
subscriptions is what the distributor holds (`Matched`): a topic that nothing was published to is
there exactly as long as a subscription that was made on it, every other topic until its key is
removed, and a subscription counts for its own topic only. Main statement: `tidy_ofCalls`.
-/
import RelayFleet.Proofs.Distribution.Calls

namespace RelayFleet

/-! ## Histories -/

/-- A subscription that lives, with the topic it was made on: its key, and when it was made. -/
structure Membership where
  number : Nat
  key : ObjectKey
  made : Nat
deriving DecidableEq

/-- A distributor with what its history says about topics and subscriptions. -/
@[ext]
structure Registry where
  distributor : Distributor
  /-- How many calls there were. -/
  moment : Nat := 0
  /-- When the topic that a key has was made. -/
  made : ObjectKey → Option Nat := fun _ => none
  members : List Membership := []
  /-- The topics that something was published to; a topic that is removed is one of them. -/
  published : List (ObjectKey × Nat) := []

namespace Registry

/-- When the topics were made that keys have after a call. -/
def madeBy (r : Registry) (c : DistributorCall) (key : ObjectKey) : Option Nat :=
  if (r.distributor.called c).topics.contains key then some ((r.made key).getD r.moment) else none

/-- The registry after a call. -/
def after (r : Registry) (c : DistributorCall) : Registry where
  distributor := r.distributor.called c
  moment := r.moment + 1
  made := r.madeBy c
  members := match c with
    | .subscribe key policy => r.members ++
        [⟨(r.distributor.subscribe key policy).1, key, (r.made key).getD r.moment⟩]
    | .leave number => r.members.filter (·.number ≠ number)
    | _ => r.members
  published := match c with
    | .publish key _ => (key, (r.made key).getD r.moment) :: r.published
    | .remove key => ((r.made key).map (key, ·)).toList ++ r.published
    | _ => r.published

/-- The registry of calls to a new distributor, one after the other. -/
def ofCalls (buffer : Nat) (cs : List DistributorCall) : Registry :=
  cs.foldl after { distributor := { buffer } }

theorem ofCalls_concat (buffer : Nat) (cs : List DistributorCall) (c : DistributorCall) :
    ofCalls buffer (cs ++ [c]) = (ofCalls buffer cs).after c :=
  List.foldl_concat ..

theorem sound_ofCalls (buffer : Nat) (cs : List DistributorCall) :
    (ofCalls buffer cs).distributor.Sound fun _ _ => True := by
  induction cs using List.reverseRecOn with
  | nil => exact Distributor.Sound.start buffer
  | append_singleton cs c ih =>
    rw [ofCalls_concat]
    exact ih.called c

/-! ## History and distributor -/

variable {r : Registry} {key : ObjectKey} {t : Topic} {n m : Nat} {s : Subscription}

/-- Whether the distributor holds what history says. -/
structure Matched (r : Registry) : Prop where
  made : ∀ key, (r.made key).isSome = r.distributor.topics.contains key
  past : ∀ key m, r.made key = some m → m < r.moment
  publishedPast : ∀ p ∈ r.published, p.2 < r.moment
  versions : ∀ key t m, r.distributor.topics.get? key = some t → r.made key = some m →
    (t.version = 0 ↔ (key, m) ∉ r.published)
  numbers : (r.members.map (·.number)).Nodup
  fresh : ∀ x ∈ r.members, x.number < r.distributor.nextSubscription
  known : ∀ n s, r.distributor.subscriptions.get? n = some s → ∃ x ∈ r.members, x.number = n
  membersPast : ∀ x ∈ r.members, x.made < r.moment
  /-- The topic of a member's key is the member's own one exactly if it was made when that was. -/
  member : ∀ x ∈ r.members, ∃ s, r.distributor.subscriptions.get? x.number = some s ∧
    s.key = x.key ∧ ∀ t, r.distributor.topics.get? x.key = some t →
      (s.topic = t.id ↔ r.made x.key = some x.made)
  remains : ∀ x ∈ r.members, (x.key, x.made) ∉ r.published → r.made x.key = some x.made

namespace Matched

theorem exists_made (h : r.Matched) (ht : r.distributor.topics.get? key = some t) :
    ∃ m, r.made key = some m := by
  refine Option.isSome_iff_exists.1 ?_
  rw [h.made, SortedMap.contains, ht]
  rfl

theorem exists_topic (h : r.Matched) (hm : r.made key = some m) :
    ∃ t, r.distributor.topics.get? key = some t := by
  have hmade := h.made key
  rw [hm] at hmade
  exact Option.isSome_iff_exists.1 hmade.symm

theorem tick (h : r.Matched) : Matched { r with moment := r.moment + 1 } where
  made := h.made
  past key m hm := Nat.lt_succ_of_lt (h.past key m hm)
  publishedPast p hp := Nat.lt_succ_of_lt (h.publishedPast p hp)
  versions := h.versions
  numbers := h.numbers
  fresh := h.fresh
  known := h.known
  membersPast x hx := Nat.lt_succ_of_lt (h.membersPast x hx)
  member := h.member
  remains := h.remains

/-! ### Topics -/

/-- A key gets a topic, if it has none. -/
theorem opened (h : r.Matched) (hsound : r.distributor.Sound fun _ _ => True) (key : ObjectKey) :
    Matched { r with
      distributor := (r.distributor.topicOf key).2
      moment := r.moment + 1
      made := fun k => if k = key then some ((r.made key).getD r.moment) else r.made k } := by
  rcases Distributor.topicOf_cases r.distributor key with ⟨t, ht, hsame⟩ | ⟨hnone, hnew⟩
  · obtain ⟨m, hm⟩ := h.exists_made ht
    have hmade : (fun k => if k = key then some ((r.made key).getD r.moment) else r.made k) =
        r.made := by
      funext k
      split
      · rename_i hk
        rw [hk, hm, Option.getD_some]
      · rfl
    rw [hsame, hmade]
    exact h.tick
  · have hmade : r.made key = none := by
      rw [← Option.not_isSome_iff_eq_none, h.made, SortedMap.contains, hnone]
      exact Bool.false_ne_true
    rw [hnew, hmade, Option.getD_none]
    refine ⟨fun k => ?_, fun k m hm => ?_, h.tick.publishedPast, fun k t m ht hm => ?_, h.numbers,
      h.fresh, h.known, h.tick.membersPast, fun x hx => ?_, fun x hx hnot => ?_⟩
    · show (if k = key then some r.moment else r.made k).isSome =
        ((r.distributor.topics.insert key _).get? k).isSome
      rw [SortedMap.get?_insert]
      split
      · rfl
      · exact h.made k
    · dsimp only at hm
      split at hm
      · cases hm
        exact Nat.lt_succ_self _
      · exact Nat.lt_succ_of_lt (h.past k m hm)
    · dsimp only at hm
      split at hm
      · rename_i hk
        cases hm
        rw [hk, SortedMap.get?_insert_self] at ht
        cases ht
        exact iff_of_true rfl fun hmem => (h.publishedPast _ hmem).false
      · rename_i hk
        exact h.versions k t m ((SortedMap.get?_insert_of_ne _ _ hk).symm.trans ht) hm
    · obtain ⟨s, hs, hkey, hmember⟩ := h.member x hx
      refine ⟨s, hs, hkey, fun t ht => ?_⟩
      dsimp only at ht ⊢
      split
      · -- a new topic is not the one that somebody subscribed to earlier
        rename_i hk
        rw [hk, SortedMap.get?_insert_self] at ht
        cases ht
        exact iff_of_false (hsound.old _ s hs).ne
          fun he => (h.membersPast x hx).ne (Option.some.inj he).symm
      · rename_i hk
        exact hmember t ((SortedMap.get?_insert_of_ne _ _ hk).symm.trans ht)
    · have hold := h.remains x hx hnot
      dsimp only
      split
      · rename_i hk
        rw [hk, hmade] at hold
        cases hold
      · exact hold

/-- Something is published to a topic. -/
theorem publish (h : r.Matched) (ht : r.distributor.topics.get? key = some t)
    (hm : r.made key = some m) (c : Document) :
    Matched { r with
      distributor := { r.distributor with
        topics := r.distributor.topics.insert key (t.publish c) }
      published := (key, m) :: r.published } := by
  refine ⟨fun k => ?_, h.past, fun p hp => ?_, fun k t' m' ht' hm' => ?_, h.numbers, h.fresh, h.known,
    h.membersPast, fun x hx => ?_, fun x hx hnot => ?_⟩
  · show (r.made k).isSome = ((r.distributor.topics.insert key _).get? k).isSome
    rw [SortedMap.get?_insert]
    split
    · rename_i hk
      rw [hk, hm]
      rfl
    · exact h.made k
  · rcases List.mem_cons.1 hp with rfl | hp
    · exact h.past key m hm
    · exact h.publishedPast p hp
  · by_cases hk : k = key
    · subst hk
      cases (SortedMap.get?_insert_self _ _ _).symm.trans ht'
      cases hm.symm.trans hm'
      refine iff_of_false (fun hversion => ?_) (not_not_intro (List.mem_cons_self ..))
      have hhead := t.head?_publish c
      rw [List.length_eq_zero_iff.1 hversion] at hhead
      cases hhead
    · rw [h.versions k t' m' ((SortedMap.get?_insert_of_ne _ _ hk).symm.trans ht') hm']
      simp [hk]
  · obtain ⟨s, hs, hkey, hmember⟩ := h.member x hx
    refine ⟨s, hs, hkey, fun t' ht' => ?_⟩
    by_cases hk : x.key = key
    · dsimp only at ht'
      rw [hk, SortedMap.get?_insert_self] at ht'
      cases ht'
      rw [Topic.id_publish]
      exact hmember t (hk ▸ ht)
    · exact hmember t' ((SortedMap.get?_insert_of_ne _ _ hk).symm.trans ht')
  · exact h.remains x hx fun hmem => hnot (List.mem_cons_of_mem _ hmem)

/-- A topic goes that no member was made on, unless something was published to it. -/
theorem erase (h : r.Matched) (key : ObjectKey) (hgone : ∀ x ∈ r.members, x.key = key →
    r.made key = some x.made → (key, x.made) ∈ r.published) :
    Matched { r with
      distributor := { r.distributor with topics := r.distributor.topics.erase key }
      made := fun k => if k = key then none else r.made k } := by
  refine ⟨fun k => ?_, fun k m hm => ?_, h.publishedPast, fun k t m ht hm => ?_, h.numbers, h.fresh,
    h.known, h.membersPast, fun x hx => ?_, fun x hx hnot => ?_⟩
  · show (if k = key then none else r.made k).isSome = ((r.distributor.topics.erase key).get? k).isSome
    rw [SortedMap.get?_erase]
    split
    · rfl
    · exact h.made k
  · exact h.past k m (Option.ite_none_left_eq_some.1 hm).2
  · exact h.versions k t m (SortedMap.get?_of_get?_erase ht).2 (Option.ite_none_left_eq_some.1 hm).2
  · obtain ⟨s, hs, hkey, hmember⟩ := h.member x hx
    refine ⟨s, hs, hkey, fun t ht => ?_⟩
    obtain ⟨hne, ht⟩ := SortedMap.get?_of_get?_erase ht
    dsimp only
    rw [if_neg hne]
    exact hmember t ht
  · have hmade := h.remains x hx hnot
    refine (if_neg ?_).trans hmade
    intro hk
    exact hnot (hk ▸ hgone x hx hk (hk ▸ hmade))

/-! ### Subscriptions -/

/-- The subscriptions go on with other things in them. -/
theorem resubscribe (h : r.Matched) (subscriptions : SortedMap Nat Subscription)
    (hsame : ∀ n, (subscriptions.get? n).map (fun s => (s.key, s.topic)) =
      (r.distributor.subscriptions.get? n).map fun s => (s.key, s.topic)) :
    Matched { r with distributor := { r.distributor with subscriptions } } where
  made := h.made
  past := h.past
  publishedPast := h.publishedPast
  versions := h.versions
  numbers := h.numbers
  fresh := h.fresh
  known n s hs := by
    have hn := hsame n
    rw [hs, Option.map_some] at hn
    obtain ⟨s', hs', -⟩ := Option.map_eq_some_iff.1 hn.symm
    exact h.known n s' hs'
  membersPast := h.membersPast
  member x hx := by
    obtain ⟨s, hs, hkey, hmember⟩ := h.member x hx
    have hx := hsame x.number
    rw [hs, Option.map_some] at hx
    obtain ⟨s', hs', he⟩ := Option.map_eq_some_iff.1 hx
    obtain ⟨hkey', htopic⟩ := Prod.mk.inj he
    exact ⟨s', hs', hkey'.trans hkey, htopic ▸ hmember⟩
  remains := h.remains

/-- Somebody subscribes to a topic. -/
theorem join (h : r.Matched) (ht : r.distributor.topics.get? key = some t)
    (hm : r.made key = some m) (hkey : s.key = key) (htopic : s.topic = t.id) :
    Matched { r with
      distributor := { r.distributor with
        subscriptions := r.distributor.subscriptions.insert r.distributor.nextSubscription s
        nextSubscription := r.distributor.nextSubscription + 1 }
      members := r.members ++ [⟨r.distributor.nextSubscription, key, m⟩] } := by
  refine ⟨h.made, h.past, h.publishedPast, h.versions, ?_, fun x hx => ?_, fun n s' hs' => ?_,
    fun x hx => ?_, fun x hx => ?_, fun x hx hnot => ?_⟩
  · rw [List.map_append, List.nodup_append]
    refine ⟨h.numbers, List.nodup_singleton _, fun n hn n' hn' => ?_⟩
    obtain ⟨x, hx, rfl⟩ := List.mem_map.1 hn
    rw [List.mem_singleton.1 hn']
    exact (h.fresh x hx).ne
  · rcases List.mem_append.1 hx with hx | hx
    · exact Nat.lt_succ_of_lt (h.fresh x hx)
    · cases List.mem_singleton.1 hx
      exact Nat.lt_succ_self _
  · rcases SortedMap.get?_insert_cases hs' with ⟨rfl, -⟩ | ⟨-, hold⟩
    · exact ⟨_, List.mem_append_right _ (List.mem_singleton_self _), rfl⟩
    · obtain ⟨x, hx, hn⟩ := h.known n s' hold
      exact ⟨x, List.mem_append_left _ hx, hn⟩
  · rcases List.mem_append.1 hx with hx | hx
    · exact h.membersPast x hx
    · cases List.mem_singleton.1 hx
      exact h.past key m hm
  · rcases List.mem_append.1 hx with hx | hx
    · obtain ⟨s', hs', hmember⟩ := h.member x hx
      exact ⟨s', (SortedMap.get?_insert_of_ne _ _ (h.fresh x hx).ne).trans hs', hmember⟩
    · cases List.mem_singleton.1 hx
      refine ⟨s, SortedMap.get?_insert_self .., hkey, fun t' ht' => ?_⟩
      cases ht.symm.trans ht'
      exact iff_of_true htopic hm
  · rcases List.mem_append.1 hx with hx | hx
    · exact h.remains x hx hnot
    · cases List.mem_singleton.1 hx
      exact hm

/-- A subscription is dropped, if it lives. -/
theorem leave (h : r.Matched) (n : Nat) :
    Matched { r with
      distributor := { r.distributor with
        subscriptions := r.distributor.subscriptions.erase n }
      members := r.members.filter (·.number ≠ n) } := by
  have hstays : ∀ {x}, x ∈ r.members.filter (·.number ≠ n) → x ∈ r.members ∧ x.number ≠ n :=
    fun hx => (List.mem_filter.1 hx).imp_right of_decide_eq_true
  refine ⟨h.made, h.past, h.publishedPast, h.versions, ?_, fun x hx => h.fresh x (hstays hx).1,
    fun n' s hs => ?_, fun x hx => h.membersPast x (hstays hx).1, fun x hx => ?_,
    fun x hx => h.remains x (hstays hx).1⟩
  · exact h.numbers.sublist (List.filter_sublist.map _)
  · obtain ⟨hne, hs⟩ := SortedMap.get?_of_get?_erase hs
    obtain ⟨x, hx, rfl⟩ := h.known n' s hs
    exact ⟨x, List.mem_filter.2 ⟨hx, decide_eq_true hne⟩, rfl⟩
  · obtain ⟨hx, hne⟩ := hstays hx
    obtain ⟨s, hs, hmember⟩ := h.member x hx
    exact ⟨s, (SortedMap.get?_erase_of_ne _ hne).trans hs, hmember⟩

end Matched

/-! ## Calls -/

variable {c : DistributorCall}

/-- The topic that a key has goes by a call, or it stays. -/
theorem made_after (hm : r.made key = some m) :
    (r.after c).made key =
      if (r.distributor.called c).topics.contains key then some m else none := by
  show r.madeBy c key = _
  rw [madeBy, hm, Option.getD_some]

/-- A registry that differs from what a call leads to only in how it is told. -/
theorem Matched.of_called {r' : Registry} (h : r'.Matched)
    (hcalled : r'.distributor = r.distributor.called c) (hmoment : r'.moment = r.moment + 1)
    (hmade : ∀ k m, r'.made k = some m → m = (r.made k).getD r.moment)
    (hmembers : r'.members = (r.after c).members) (hpublished : r'.published = (r.after c).published) :
    (r.after c).Matched := by
  have hsame : r' = r.after c := by
    refine Registry.ext hcalled hmoment (funext fun k => ?_) hmembers hpublished
    show r'.made k = r.madeBy c k
    rw [madeBy, ← hcalled, ← h.made]
    cases hk : r'.made k with
    | none => rfl
    | some m => rw [hmade k m hk]; rfl
  exact hsame ▸ h

/-- A topic that was there before a call was made when it was. -/
theorem eq_getD_of_made {k : ObjectKey} (hm : r.made k = some m) :
    m = (r.made k).getD r.moment := by
  rw [hm, Option.getD_some]

/-- A topic that was made for a call was made at its moment, the others when they were. -/
theorem eq_getD_of_opened {k : ObjectKey}
    (hm : (if k = key then some ((r.made key).getD r.moment) else r.made k) = some m) :
    m = (r.made k).getD r.moment := by
  split at hm
  · rename_i hk
    rw [hk]
    exact (Option.some.inj hm).symm
  · exact eq_getD_of_made hm

/-- A subscription that is asked for what is next stays on its topic. -/
theorem same_next (d : Distributor) (number n : Nat) :
    ((d.next number).2.subscriptions.get? n).map (fun s => (s.key, s.topic)) =
      (d.subscriptions.get? n).map fun s => (s.key, s.topic) := by
  unfold Distributor.next
  split
  · rfl
  · rename_i s hs
    split
    · rfl
    · rename_i t _
      have hkept := (s.next_cases d.retained t).1
      dsimp only
      rw [SortedMap.get?_insert]
      split
      · rename_i hn
        rw [hn, hs, Option.map_some, Option.map_some, hkept.key, hkept.topic]
      · rfl

/-- With a subscription its topic goes, if it was only there for it. -/
theorem unsubscribe_eq {d : Distributor} (hs : d.subscriptions.get? n = some s) :
    (d.unsubscribe n = { d with subscriptions := d.subscriptions.erase n } ∧
      ∀ t, d.topics.get? s.key = some t → t.id = s.topic → t.version = 0 →
        ∃ n' s', (d.subscriptions.erase n).get? n' = some s' ∧ s'.topic = t.id) ∨
    ∃ t, d.topics.get? s.key = some t ∧ t.id = s.topic ∧ t.version = 0 ∧
      (∀ n' s', (d.subscriptions.erase n).get? n' = some s' → s'.topic ≠ t.id) ∧
      d.unsubscribe n = { d with
        topics := d.topics.erase s.key
        subscriptions := d.subscriptions.erase n } := by
  have hforsaken : ∀ t, Distributor.isForsaken
      { d with subscriptions := d.subscriptions.erase n } t = true ↔ t.version = 0 ∧
        ∀ n' s', (d.subscriptions.erase n).get? n' = some s' → s'.topic ≠ t.id := by
    intro t
    rw [Distributor.isForsaken, Bool.and_eq_true_iff, decide_eq_true_eq, List.isEmpty_iff,
      Distributor.subscribersOf, List.filter_eq_nil_iff]
    refine and_congr_right fun _ => ⟨fun hall n' s' hs' htopic => ?_, fun hall s' hmem => ?_⟩
    · exact hall s' (SortedMap.mem_values_iff.2 ⟨n', hs'⟩) (decide_eq_true htopic)
    · obtain ⟨n', hs'⟩ := SortedMap.mem_values_iff.1 hmem
      exact fun htopic => hall n' s' hs' (of_decide_eq_true htopic)
  unfold Distributor.unsubscribe
  rw [hs]
  dsimp only
  cases ht : d.topics.get? s.key with
  | none => exact .inl ⟨rfl, by rintro _ ⟨⟩⟩
  | some t =>
    dsimp only
    split
    · rename_i hgoes
      obtain ⟨hversion, hnone⟩ := (hforsaken t).1 hgoes.2
      exact .inr ⟨t, rfl, hgoes.1, hversion, hnone, rfl⟩
    · rename_i hstays
      refine .inl ⟨rfl, ?_⟩
      rintro _ ⟨⟩ hid hversion
      by_contra hnone
      refine hstays ⟨hid, (hforsaken t).2 ⟨hversion, fun n' s' hs' htopic => ?_⟩⟩
      exact hnone ⟨n', s', hs', htopic⟩

namespace Matched

theorem start (buffer : Nat) : Matched { distributor := { buffer } } where
  made _ := rfl
  past _ _ h := by cases h
  publishedPast _ h := by cases h
  versions _ _ _ h := by cases h
  numbers := .nil
  fresh _ h := by cases h
  known _ _ h := by cases h
  membersPast _ h := by cases h
  member _ h := by cases h
  remains _ h := by cases h

variable (h : r.Matched) (hsound : r.distributor.Sound fun _ _ => True)

include h

include hsound in
theorem after_publish (key : ObjectKey) (config : Document) :
    (r.after (.publish key config)).Matched := by
  have hpublish := (h.opened hsound key).publish
    (Distributor.get?_topicOf r.distributor key) (if_pos rfl) config
  exact hpublish.of_called rfl rfl (fun _ _ => eq_getD_of_opened) rfl rfl

theorem after_remove (key : ObjectKey) : (r.after (.remove key)).Matched := by
  rcases Distributor.remove_cases r.distributor key with ⟨hnone, hsame⟩ | ⟨t, ht, hremoved⟩
  · have hmade : r.made key = none := by
      rw [← Option.not_isSome_iff_eq_none, h.made, SortedMap.contains, hnone]
      exact Bool.false_ne_true
    refine h.tick.of_called hsame.symm rfl (fun _ _ => eq_getD_of_made (r := r)) rfl ?_
    show r.published = ((r.made key).map (key, ·)).toList ++ r.published
    rw [hmade]
    rfl
  · obtain ⟨m, hm⟩ := h.exists_made ht
    -- the empty document is published, and then the topic goes
    have hpublish := h.publish ht hm .empty
    have herase := hpublish.erase key fun x hx hk hmade => by
      rw [← Option.some.inj (hm.symm.trans hmade)]
      exact List.mem_cons_self ..
    have hremove := (herase.resubscribe (r.distributor.subscriptions.map fun s =>
      if s.topic = t.id then { s with closed := some (t.publish .empty) } else s) fun n => by
        rw [SortedMap.get?_map, Option.map_map]
        refine Option.map_congr fun s _ => ?_
        dsimp only [Function.comp_apply]
        split <;> rfl).tick
    have htopics : (r.distributor.topics.insert key (t.publish .empty)).erase key =
        r.distributor.topics.erase key := by
      refine SortedMap.ext_get? fun k => ?_
      rw [SortedMap.get?_erase, SortedMap.get?_erase, SortedMap.get?_insert]
      split <;> rfl
    refine hremove.of_called ?_ rfl
      (fun _ _ hm' => eq_getD_of_made (Option.ite_none_left_eq_some.1 hm').2) rfl ?_
    · show _ = r.distributor.remove key
      rw [hremoved]
      dsimp only
      rw [htopics]
    · show (key, m) :: r.published = ((r.made key).map (key, ·)).toList ++ r.published
      rw [hm]
      rfl

include hsound in
theorem after_subscribe (key : ObjectKey) (policy : DeliveryPolicy) :
    (r.after (.subscribe key policy)).Matched := by
  let t := (r.distributor.topicOf key).1
  have hjoin := (h.opened hsound key).join
    (s := { key, policy, topic := t.id, initial := t.latest?, taken := t.version })
    (Distributor.get?_topicOf r.distributor key) (if_pos rfl) rfl rfl
  exact hjoin.of_called rfl rfl (fun _ _ => eq_getD_of_opened) rfl rfl

theorem after_next (number : Nat) : (r.after (.next number)).Matched := by
  have hnext := (h.resubscribe _ (same_next r.distributor number)).tick
  refine hnext.of_called ?_ rfl (fun _ _ => eq_getD_of_made (r := r)) rfl rfl
  show _ = (r.distributor.next number).2
  rcases Distributor.after_next_cases r.distributor number with hsame | ⟨s, hnext⟩
  · rw [hsame]
  · rw [hnext]

theorem after_leave (n : Nat) : (r.after (.leave n)).Matched := by
  have hleft := (h.leave n).tick
  cases hs : r.distributor.subscriptions.get? n with
  | none =>
    have hcalled : r.distributor.unsubscribe n = r.distributor := by
      rw [Distributor.unsubscribe, hs]
    have herase : r.distributor.subscriptions.erase n = r.distributor.subscriptions := by
      refine SortedMap.ext_get? fun n' => ?_
      rw [SortedMap.get?_erase]
      split
      · rename_i hn
        rw [hn, hs]
      · rfl
    refine hleft.of_called ?_ rfl (fun _ _ => eq_getD_of_made (r := r)) rfl rfl
    show _ = r.distributor.unsubscribe n
    rw [hcalled]
    dsimp only
    rw [herase]
  | some s =>
    rcases unsubscribe_eq hs with ⟨hcalled, -⟩ | ⟨t, ht, -, -, hnone, hcalled⟩
    · exact hleft.of_called hcalled.symm rfl (fun _ _ => eq_getD_of_made (r := r)) rfl rfl
    · have herase := hleft.erase s.key fun x hx hk hmade => by
        obtain ⟨s', hs', -, hmember⟩ := hleft.member x hx
        exact absurd ((hmember t (hk ▸ ht)).2 (hk ▸ hmade)) (hnone _ s' hs')
      exact herase.of_called hcalled.symm rfl
        (fun _ _ hm => eq_getD_of_made (Option.ite_none_left_eq_some.1 hm).2) rfl rfl

include hsound in
theorem after (c : DistributorCall) : (r.after c).Matched := by
  cases c with
  | publish key config => exact h.after_publish hsound key config
  | remove key => exact h.after_remove key
  | subscribe key policy => exact h.after_subscribe hsound key policy
  | next number => exact h.after_next number
  | leave number => exact h.after_leave number

end Matched

theorem matched_ofCalls (buffer : Nat) (cs : List DistributorCall) : (ofCalls buffer cs).Matched := by
  induction cs using List.reverseRecOn with
  | nil => exact .start buffer
  | append_singleton cs c ih =>
    rw [ofCalls_concat]
    exact ih.after (sound_ofCalls buffer cs) c

/-! ## Topics that are waited for -/

/-- Whether every topic that nothing was published to has a member. -/
def Awaited (r : Registry) : Prop :=
  ∀ key m, r.made key = some m → (key, m) ∉ r.published → ∃ x ∈ r.members, x.key = key ∧ x.made = m

theorem made_of_after (h : r.Matched) (hm : (r.after c).made key = some m)
    (hold : r.distributor.topics.contains key = true) : r.made key = some m := by
  obtain ⟨m', hm'⟩ := Option.isSome_iff_exists.1 ((h.made key).trans hold)
  rw [made_after hm'] at hm
  rw [hm', (Option.ite_none_right_eq_some.1 hm).2]

theorem contains_of_after (hm : (r.after c).made key = some m) :
    (r.distributor.called c).topics.contains key = true ∧ m = (r.made key).getD r.moment :=
  (Option.ite_none_right_eq_some.1 hm).imp_right fun he => (Option.some.inj he).symm

theorem contains_of_erase {d : Distributor} {k : ObjectKey}
    (h : (d.topics.erase k).contains key = true) : key ≠ k ∧ d.topics.contains key = true := by
  obtain ⟨t, ht⟩ := Option.isSome_iff_exists.1 h
  obtain ⟨hne, hold⟩ := SortedMap.get?_of_get?_erase ht
  exact ⟨hne, Option.isSome_iff_exists.2 ⟨t, hold⟩⟩

/-- Who waits for a topic with others may leave: they still wait for it. -/
theorem Awaited.after_leave (hw : r.Awaited) (h : r.Matched)
    (hsound : r.distributor.Sound fun _ _ => True) (n : Nat) : (r.after (.leave n)).Awaited := by
  intro key m hm hnot
  have hcontains : (r.distributor.unsubscribe n).topics.contains key = true :=
    (contains_of_after hm).1
  have hstays : r.distributor.topics.contains key = true → ∃ x ∈ r.members, x.key = key ∧
      x.made = m ∧ r.made key = some m := fun hold => by
    have hmade := made_of_after h hm hold
    obtain ⟨x, hx, hkey, hxm⟩ := hw key m hmade hnot
    exact ⟨x, hx, hkey, hxm, hmade⟩
  have hother : ∀ {x : Membership}, x ∈ r.members → x.key = key → x.made = m → x.number ≠ n →
      ∃ x ∈ (r.after (.leave n)).members, x.key = key ∧ x.made = m := fun hx hkey hxm hn =>
    ⟨_, List.mem_filter.2 ⟨hx, decide_eq_true hn⟩, hkey, hxm⟩
  cases hs : r.distributor.subscriptions.get? n with
  | none =>
    rw [Distributor.unsubscribe, hs] at hcontains
    obtain ⟨x, hx, hkey, hxm, -⟩ := hstays hcontains
    refine hother hx hkey hxm ?_
    rintro rfl
    obtain ⟨s, hs', -⟩ := h.member x hx
    cases hs.symm.trans hs'
  | some s =>
    rcases unsubscribe_eq hs with ⟨hcalled, hothers⟩ | ⟨t, ht, -, -, -, hcalled⟩
    · rw [hcalled] at hcontains
      obtain ⟨x, hx, hkey, hxm, hmade⟩ := hstays hcontains
      by_cases hn : x.number = n
      · -- the topic was not forsaken, so it has another subscriber, who is a member too
        obtain ⟨t, ht⟩ := h.exists_topic hmade
        obtain ⟨s', hs', hkey', hmember⟩ := h.member x hx
        rw [hn] at hs'
        cases hs.symm.trans hs'
        rw [hkey] at hkey' hmember
        have hid := (hmember t ht).2 (hxm ▸ hmade)
        have hversion := (h.versions key t m ht hmade).2 hnot
        obtain ⟨n', s', hs', htopic⟩ := hothers t (hkey' ▸ ht) hid.symm hversion
        obtain ⟨hne, hs'⟩ := SortedMap.get?_of_get?_erase hs'
        obtain ⟨x', hx', rfl⟩ := h.known n' s' hs'
        obtain ⟨s'', hs'', hkey'', hmember'⟩ := h.member x' hx'
        cases hs'.symm.trans hs''
        have hjoined : key = s'.key := hsound.joined _ s' hs' key t ht htopic.symm
        have hx'key : x'.key = key := hkey''.symm.trans hjoined.symm
        rw [hx'key] at hmember'
        exact hother hx' hx'key (Option.some.inj (((hmember' t ht).1 htopic).symm.trans hmade)) hne
      · exact hother hx hkey hxm hn
    · rw [hcalled] at hcontains
      obtain ⟨hne, hold⟩ := contains_of_erase hcontains
      obtain ⟨x, hx, hkey, hxm, -⟩ := hstays hold
      refine hother hx hkey hxm ?_
      rintro rfl
      obtain ⟨s', hs', hkey', -⟩ := h.member x hx
      cases hs.symm.trans hs'
      exact hne (hkey.symm.trans hkey'.symm)

theorem Awaited.after (hw : r.Awaited) (h : r.Matched)
    (hsound : r.distributor.Sound fun _ _ => True) (c : DistributorCall) : (r.after c).Awaited := by
  intro key m hm hnot
  obtain ⟨hcontains, hmade⟩ := contains_of_after hm
  cases c with
  | publish k config =>
    have hne : key ≠ k := by
      rintro rfl
      exact hnot (hmade ▸ List.mem_cons_self ..)
    have hold : r.distributor.topics.contains key = true := by
      rwa [SortedMap.contains, Distributor.called, Distributor.get?_publish_of_ne _ _ hne] at hcontains
    exact hw key m (made_of_after h hm hold) fun hmem => hnot (List.mem_cons_of_mem _ hmem)
  | remove k =>
    have hold : r.distributor.topics.contains key = true := by
      rw [Distributor.called] at hcontains
      rcases Distributor.remove_cases r.distributor k with ⟨-, hsame⟩ | ⟨t, -, hremoved⟩
      · rwa [hsame] at hcontains
      · rw [hremoved] at hcontains
        exact (contains_of_erase hcontains).2
    exact hw key m (made_of_after h hm hold) fun hmem => hnot (List.mem_append_right _ hmem)
  | subscribe k policy =>
    by_cases hk : key = k
    · subst hk
      exact ⟨_, List.mem_append_right _ (List.mem_singleton_self _), rfl, hmade.symm⟩
    · have hold : r.distributor.topics.contains key = true := by
        rw [SortedMap.contains] at hcontains ⊢
        rwa [← Distributor.get?_topicOf_of_ne r.distributor hk]
      obtain ⟨x, hx, hmember⟩ := hw key m (made_of_after h hm hold) hnot
      exact ⟨x, List.mem_append_left _ hx, hmember⟩
  | next n =>
    have hold : r.distributor.topics.contains key = true := by
      rwa [Distributor.called, Distributor.topics_next] at hcontains
    exact hw key m (made_of_after h hm hold) hnot
  | leave n => exact hw.after_leave h hsound n key m hm hnot

theorem awaited_ofCalls (buffer : Nat) (cs : List DistributorCall) : (ofCalls buffer cs).Awaited := by
  induction cs using List.reverseRecOn with
  | nil =>
    intro key m hm
    cases hm
  | append_singleton cs c ih =>
    rw [ofCalls_concat]
    exact ih.after (matched_ofCalls buffer cs) (sound_ofCalls buffer cs) c

/-! ## The registry in order -/

/-- The members that were made on the topic that a key has now. -/
def joined (r : Registry) (key : ObjectKey) : List Membership :=
  r.members.filter fun x => x.key = key ∧ r.made key = some x.made

/-- Whether the registry of topics is in order. -/
structure Tidy (r : Registry) : Prop where
  topic : ∀ key, r.distributor.topics.contains key = (r.made key).isSome
  /-- A topic that nothing was published to is there as long as a member that was made on it. -/
  waiting : ∀ key m, (key, m) ∉ r.published →
    (r.made key = some m ↔ ∃ x ∈ r.members, x.key = key ∧ x.made = m)
  latest : ∀ key m, r.made key = some m →
    (r.distributor.latest? key = none ↔ (key, m) ∉ r.published)
  /-- A topic that something was published to is there until its key is removed. -/
  lasting : ∀ c key m, r.made key = some m → (key, m) ∈ r.published →
    (r.after c).made key ≠ some m → c = .remove key
  /-- A member that was made on an earlier topic leaves the present topics as they are. -/
  leaving : ∀ x ∈ r.members, r.made x.key ≠ some x.made →
    (r.distributor.unsubscribe x.number).topics = r.distributor.topics ∧
      ∀ key, (r.distributor.unsubscribe x.number).subscriberCount key =
        r.distributor.subscriberCount key
  count : ∀ key, r.distributor.subscriberCount key = (r.joined key).length
  sorted : r.distributor.keys.Pairwise (compare · · = .lt)
  keys : ∀ key, key ∈ r.distributor.keys ↔ (r.distributor.latest? key).isSome

theorem Matched.latest?_eq_none_iff (h : r.Matched) (hm : r.made key = some m) :
    r.distributor.latest? key = none ↔ (key, m) ∉ r.published := by
  obtain ⟨t, ht⟩ := h.exists_topic hm
  rw [← h.versions key t m ht hm, Distributor.latest?, ht, Option.bind_some]
  unfold Topic.latest? Topic.version
  rw [Option.map_eq_none_iff, List.head?_eq_none_iff, List.length_eq_zero_iff]

/-- The members that were made on the present topic of a key are its subscribers. -/
theorem Matched.subscriberCount_eq (h : r.Matched) (hsound : r.distributor.Sound fun _ _ => True)
    (key : ObjectKey) : r.distributor.subscriberCount key = (r.joined key).length := by
  unfold Distributor.subscriberCount
  cases ht : r.distributor.topics.get? key with
  | none =>
    refine (List.length_eq_zero_iff.2 (List.filter_eq_nil_iff.2 fun x _ hx => ?_)).symm
    obtain ⟨t, ht'⟩ := h.exists_topic (of_decide_eq_true hx).2
    cases ht.symm.trans ht'
  | some t =>
    let subscribed := r.distributor.subscriptions.toList.filter fun b => b.2.topic = t.id
    have hperm : (subscribed.map (·.1)).Perm ((r.joined key).map (·.number)) := by
      have hsubscribed : (subscribed.map (·.1)).Nodup :=
        (SortedMap.nodup_keys _).sublist (List.filter_sublist.map _)
      have hjoined : ((r.joined key).map (·.number)).Nodup :=
        h.numbers.sublist (List.filter_sublist.map _)
      refine (List.perm_ext_iff_of_nodup hsubscribed hjoined).2 fun n => ?_
      simp only [List.mem_map]
      constructor
      · rintro ⟨⟨n, s⟩, hb, rfl⟩
        obtain ⟨hb, hsame⟩ := List.mem_filter.1 hb
        have hs := SortedMap.get?_eq_some_iff.2 hb
        have htopic : s.topic = t.id := of_decide_eq_true hsame
        obtain ⟨x, hx, rfl⟩ := h.known n s hs
        obtain ⟨s', hs', hkey, hmember⟩ := h.member x hx
        cases hs.symm.trans hs'
        have hk : x.key = key := hkey.symm.trans (hsound.joined _ s hs key t ht htopic.symm).symm
        rw [hk] at hmember
        exact ⟨x, List.mem_filter.2 ⟨hx, decide_eq_true ⟨hk, (hmember t ht).1 htopic⟩⟩, rfl⟩
      · rintro ⟨x, hx, rfl⟩
        obtain ⟨hx, hpresent⟩ := List.mem_filter.1 hx
        obtain ⟨hk, hmade⟩ := of_decide_eq_true hpresent
        obtain ⟨s, hs, -, hmember⟩ := h.member x hx
        rw [hk] at hmember
        have htopic := (hmember t ht).2 hmade
        exact ⟨(x.number, s), List.mem_filter.2 ⟨SortedMap.get?_eq_some_iff.1 hs,
          decide_eq_true htopic⟩, rfl⟩
    have hlength := hperm.length_eq
    rw [List.length_map, List.length_map] at hlength
    show (r.distributor.subscribersOf t.id).length = _
    rw [← hlength, Distributor.subscribersOf, SortedMap.values, List.filter_map, List.length_map]
    rfl

theorem sorted_keys (d : Distributor) : d.keys.Pairwise (compare · · = .lt) :=
  List.pairwise_map.2 (d.topics.sorted.sublist List.filter_sublist)

theorem mem_keys_iff {d : Distributor} : key ∈ d.keys ↔ (d.latest? key).isSome := by
  have hlatest : ∀ t : Topic, 0 < t.version ↔ t.latest?.isSome := by
    intro t
    unfold Topic.latest? Topic.version
    rw [Option.isSome_map, List.isSome_head?]
    exact List.length_pos_iff
  unfold Distributor.keys Distributor.latest?
  simp only [List.mem_map, List.mem_filter, decide_eq_true_eq]
  constructor
  · rintro ⟨⟨k, t⟩, ⟨hb, hversion⟩, rfl⟩
    rw [SortedMap.get?_eq_some_iff.2 hb]
    exact (hlatest t).1 hversion
  · intro hsome
    obtain ⟨u, hu⟩ := Option.isSome_iff_exists.1 hsome
    obtain ⟨t, ht, hu⟩ := Option.bind_eq_some_iff.1 hu
    exact ⟨(key, t), ⟨SortedMap.get?_eq_some_iff.1 ht,
      (hlatest t).2 (Option.isSome_iff_exists.2 ⟨u, hu⟩)⟩, rfl⟩

/-- A member that was made on an earlier topic leaves the present topics as they are. -/
theorem Matched.topics_unsubscribe (h : r.Matched) {x : Membership} (hx : x ∈ r.members)
    (hearlier : r.made x.key ≠ some x.made) :
    (r.distributor.unsubscribe x.number).topics = r.distributor.topics := by
  obtain ⟨s, hs, hkey, hmember⟩ := h.member x hx
  rcases unsubscribe_eq hs with ⟨hcalled, -⟩ | ⟨t, ht, hid, -, -, -⟩
  · rw [hcalled]
  · exact absurd ((hmember t (hkey ▸ ht)).1 hid.symm) hearlier

/-- It takes no subscriber from them. -/
theorem Matched.joined_leave (h : r.Matched) {x : Membership} (hx : x ∈ r.members)
    (hearlier : r.made x.key ≠ some x.made) (key : ObjectKey) :
    (r.after (.leave x.number)).joined key = r.joined key := by
  have hmade : (r.after (.leave x.number)).made = r.made := by
    funext k
    show r.madeBy _ k = r.made k
    rw [madeBy, Distributor.called, h.topics_unsubscribe hx hearlier, ← h.made]
    cases r.made k <;> rfl
  unfold joined
  rw [hmade]
  show (r.members.filter _).filter _ = _
  rw [List.filter_filter]
  refine List.filter_congr fun y hy => ?_
  by_cases hpresent : y.key = key ∧ r.made key = some y.made
  · have hne : y.number ≠ x.number := by
      intro hnumber
      obtain rfl : y = x := List.inj_on_of_nodup_map h.numbers hy hx hnumber
      exact hearlier (hpresent.1 ▸ hpresent.2)
    simp [hpresent, hne]
  · simp [hpresent]

theorem contains_called {d : Distributor} (ht : d.topics.get? key = some t) (hversion : t.version ≠ 0)
    (hne : c ≠ .remove key) : (d.called c).topics.contains key = true := by
  have hcontains : d.topics.contains key = true := Option.isSome_iff_exists.2 ⟨t, ht⟩
  cases c with
  | publish k config =>
    rw [SortedMap.contains, Distributor.called]
    by_cases hk : key = k
    · rw [hk, Distributor.get?_publish_self]
      rfl
    · rwa [Distributor.get?_publish_of_ne _ _ hk]
  | remove k =>
    have hk : key ≠ k := by
      rintro rfl
      exact hne rfl
    rw [Distributor.called]
    rcases Distributor.remove_cases d k with ⟨-, hsame⟩ | ⟨u, -, hremoved⟩
    · rwa [hsame]
    · rw [hremoved]
      rwa [SortedMap.contains, SortedMap.get?_erase_of_ne _ hk]
  | subscribe k policy =>
    show ((d.topicOf k).2.topics.get? key).isSome = true
    by_cases hk : key = k
    · rw [hk, Distributor.get?_topicOf]
      rfl
    · rwa [Distributor.get?_topicOf_of_ne _ hk]
  | next n => rwa [Distributor.called, Distributor.topics_next]
  | leave n =>
    rw [Distributor.called]
    rcases Distributor.unsubscribe_cases d n with hsame | hleft | ⟨k, u, hu, hzero, -, hgone⟩
    · rwa [hsame]
    · rwa [hleft]
    · have hk : key ≠ k := by
        rintro rfl
        cases ht.symm.trans hu
        exact hversion hzero
      rw [hgone]
      rwa [SortedMap.contains, SortedMap.get?_erase_of_ne _ hk]

/-- A topic that something was published to is there until its key is removed. -/
theorem Matched.eq_remove_of_gone (h : r.Matched) (hm : r.made key = some m)
    (hpublished : (key, m) ∈ r.published) (hgone : (r.after c).made key ≠ some m) :
    c = .remove key := by
  obtain ⟨t, ht⟩ := h.exists_topic hm
  by_contra hne
  rw [made_after hm, if_pos (contains_called ht (fun hversion => ?_) hne)] at hgone
  · exact hgone rfl
  · exact (h.versions key t m ht hm).1 hversion hpublished

/-- The registry is in order after every sequence of calls. -/
theorem tidy_ofCalls (buffer : Nat) (cs : List DistributorCall) : (ofCalls buffer cs).Tidy := by
  have h := matched_ofCalls buffer cs
  have hsound := sound_ofCalls buffer cs
  refine ⟨fun key => (h.made key).symm,
    fun key m hnot => ⟨fun hm => awaited_ofCalls buffer cs key m hm hnot, ?_⟩,
    fun key m hm => h.latest?_eq_none_iff hm, fun c key m => h.eq_remove_of_gone,
    fun x hx hearlier => ⟨h.topics_unsubscribe hx hearlier, fun key => ?_⟩,
    h.subscriberCount_eq hsound, sorted_keys _, fun key => mem_keys_iff⟩
  · rintro ⟨x, hx, rfl, rfl⟩
    exact h.remains x hx hnot
  · have hleft := (h.after hsound (.leave x.number)).subscriberCount_eq
      (hsound.called (.leave x.number)) key
    rw [h.joined_leave hx hearlier] at hleft
    exact hleft.trans (h.subscriberCount_eq hsound key).symm

end Registry

end RelayFleet
