/-
What a subscriber sees of its topic. A subscriber holds its subscription through any sequence of
calls to the distributor: others publish, remove, subscribe, read and leave, and it asks for what is
next from time to time. Whatever the policy is, it gets updates of the topic it subscribed to and of
no other, each newer than the one before, and with the last one, the empty document, its view ends
(`faithful_ofCalls`). A subscriber for every version misses some only when more are unread than the
ring keeps, and then goes on at the newest one (`gapless_ofCalls`).
-/
import RelayFleet.Proofs.Distribution.Subscriber

namespace RelayFleet

namespace Viewing

variable {v : Viewing} {s : Subscription} {t : Topic} {c : DistributorCall}

/-! ## What was given -/

/-- The version that the subscriber was given last, or zero. -/
def last (v : Viewing) : Nat := (v.given.getLast?.map (·.version)).getD 0

/-- How far a subscriber has come in its topic. -/
structure Kept (v : Viewing) : Prop where
  ascending : v.given.Pairwise fun u w => u.version < w.version
  mem : ∀ u ∈ v.given, u ∈ v.topic
  recent : ∀ u ∈ v.given, v.since ≤ u.version
  delivered : v.reader.delivered = v.last
  since_le : v.since ≤ v.topic.length
  initial : v.policy = .every → ∀ u, v.reader.initial = some u → u.version = v.since
  started : v.policy = .every → v.reader.initial = none → v.given = [] → v.since = 0

/-- How many updates the subscriber neither took from the ring nor missed there. -/
def unread (v : Viewing) : Nat := v.channels.ring.sent - v.reader.position

theorem unread_eq (v : Viewing) : v.unread = v.topic.length - v.reader.position := by
  rw [unread]
  exact congrArg (· - v.reader.position) (Ring.sent_ofUpdates ..)

/-- The version that is next if none is missed. -/
def due (v : Viewing) : Nat := max v.since (v.last + 1)

theorem last_congr {w : Viewing} (h : w.given = v.given) : w.last = v.last := by
  rw [last, last, h]

theorem last_of_append {u : ConfigUpdate} {l : List ConfigUpdate} (h : v.given = l ++ [u]) :
    v.last = u.version := by
  rw [last, h, List.getLast?_concat]
  rfl

theorem exists_of_last (h : v.last ≠ 0) : ∃ u, v.given.getLast? = some u ∧ v.last = u.version := by
  unfold last at h ⊢
  cases hu : v.given.getLast? with
  | none =>
    rw [hu] at h
    exact absurd rfl h
  | some u => exact ⟨u, rfl, rfl⟩

theorem prefix_topic_after (v : Viewing) (c : DistributorCall) : v.topic <+: (v.after c).topic := by
  show _ <+: if _ then _ else _
  split
  · exact List.prefix_rfl
  · exact List.prefix_append ..

namespace Kept

theorem le_last (hk : v.Kept) {u : ConfigUpdate} (hu : u ∈ v.given) : u.version ≤ v.last := by
  have hsorted := hk.ascending
  rcases List.eq_nil_or_concat v.given with hnil | ⟨l, w, hl⟩
  · rw [hnil] at hu
    cases hu
  · rw [List.concat_eq_append] at hl
    rw [last_of_append hl]
    rw [hl] at hu hsorted
    rcases List.mem_append.1 hu with hu | hu
    · exact ((List.pairwise_append.1 hsorted).2.2 u hu w (List.mem_singleton_self w)).le
    · rw [List.mem_singleton.1 hu]

theorem given_eq_nil (hk : v.Kept) (h : v.Follows s t) (hlast : v.last = 0) : v.given = [] := by
  refine List.eq_nil_iff_forall_not_mem.2 fun u hu => ?_
  have hpos := (h.counted.version_of_mem (hk.mem u hu)).1
  have hle := hk.le_last hu
  omega

theorem since_le_last (hk : v.Kept) (hgiven : v.given ≠ []) : v.since ≤ v.last := by
  obtain ⟨u, hu⟩ := List.exists_mem_of_ne_nil _ hgiven
  exact (hk.recent u hu).trans (hk.le_last hu)

theorem delivered_eq (hk : v.Kept) (h : v.Follows s t) : s.delivered = v.last := by
  rw [← hk.delivered, ← h.reader]
  rfl

/-- A subscriber for every version gets the one that is due, or the newest one because more are
unread than the ring keeps. -/
theorem version_of_next (hk : v.Kept) (h : v.Follows s t) (hp : v.policy = .every)
    {u : ConfigUpdate} (hu : v.next = .update u) :
    u.version = v.due ∨
      v.distributor.retained < v.unread ∧ v.topic.getLast? = some u := by
  have ho := h.outcome
  rw [hu] at ho
  have hdelivered := hk.delivered_eq h
  have hinitial : v.reader.initial = s.initial := h.reader ▸ rfl
  obtain ⟨-, hfirst | ⟨hnone, hnext | ⟨hover, hnewest⟩⟩⟩ := ho.every_update (h.policy.trans hp)
  · obtain ⟨hupdate, -, hzero⟩ := h.placed.initial (h.policy.trans hp) u hfirst
    have hversion := hk.initial hp u (hinitial.trans hfirst)
    have hpos := (Topic.version_of_update? hupdate).2.1
    unfold due
    omega
  · left
    unfold due
    by_cases hgiven : v.given = []
    · have hsince := hk.started hp (hinitial.trans hnone) hgiven
      omega
    · have hsince := hk.since_le_last hgiven
      omega
  · right
    rw [unread_eq, ← h.topic, t.length_updates, t.getLast?_updates, ← h.reader]
    exact ⟨Nat.lt_sub_of_add_lt (Nat.add_comm .. ▸ hover), hnewest⟩

/-- What is given is newer than all that was given, and not older than what was there first. -/
theorem due_le (hk : v.Kept) (h : v.Follows s t) {u : ConfigUpdate} (hu : v.next = .update u) :
    v.due ≤ u.version ∧ u ∈ v.topic := by
  have ho := h.outcome
  rw [hu] at ho
  obtain ⟨hlt, hmem, -⟩ := ho.lt_of_update h.placed
  rw [h.topic] at hmem
  have hdelivered := hk.delivered_eq h
  have hnewest : v.topic.getLast? = some u → v.due ≤ u.version := by
    intro hlast
    have hversion := h.counted.version_getLast? hlast
    have hsince := hk.since_le
    unfold due
    omega
  refine ⟨?_, hmem⟩
  cases hp : v.policy with
  | latest =>
    refine hnewest ?_
    rw [← h.topic, t.getLast?_updates]
    exact ho.latest_update (h.policy.trans hp)
  | every =>
    rcases hk.version_of_next h hp hu with hdue | ⟨-, hlast⟩
    · exact hdue.ge
    · exact hnewest hlast

/-- The subscriber asks and gets an update. -/
theorem after_update (hk : v.Kept) (h : v.Follows s t) {u : ConfigUpdate}
    (hu : v.next = .update u) : (v.after (.next v.number)).Kept := by
  have hgiven := given_after_update hu
  have hreader := h.reader_after_next
  have htopic := topic_after_next v v.number
  have ho := h.outcome
  rw [hu] at ho
  obtain ⟨hdue, hmem⟩ := hk.due_le h hu
  obtain ⟨hlast, hsince⟩ : v.last < u.version ∧ v.since ≤ u.version := by
    unfold due at hdue
    omega
  constructor
  · rw [hgiven, List.pairwise_append]
    refine ⟨hk.ascending, List.pairwise_singleton .., fun w hw x hx => ?_⟩
    rw [List.mem_singleton.1 hx]
    exact (hk.le_last hw).trans_lt hlast
  · rw [hgiven, htopic]
    intro w hw
    rcases List.mem_append.1 hw with hw | hw
    · exact hk.mem w hw
    · exact List.mem_singleton.1 hw ▸ hmem
  · rw [hgiven]
    intro w hw
    rcases List.mem_append.1 hw with hw | hw
    · exact hk.recent w hw
    · exact List.mem_singleton.1 hw ▸ hsince
  · rw [last_of_append hgiven, hreader]
    exact (ho.lt_of_update h.placed).2.2
  · rw [htopic]
    exact hk.since_le
  · intro hp w hw
    rw [hreader] at hw
    have hnone := (ho.every_update (h.policy.trans hp)).1
    exact absurd (hnone.symm.trans hw) (by rintro ⟨⟩)
  · intro _ _ hnil
    rw [hgiven] at hnil
    exact absurd hnil (by simp)

/-- The subscriber has been given the newest one when it gets no update. -/
theorem last_of_done (hk : v.Kept) (h : v.Follows s t) (hx : ∀ u, v.next ≠ .update u) :
    v.last = v.topic.length := by
  obtain ⟨hd, -⟩ := h.outcome.done hx
  rw [← hk.delivered_eq h, ← h.topic, t.length_updates, hd]

theorem last_le (hk : v.Kept) (h : v.Follows s t) : v.last ≤ v.topic.length := by
  rw [← hk.delivered_eq h, ← h.topic, t.length_updates]
  exact h.placed.delivered_le

/-- Nothing changes for the subscriber but that its topic may grow. -/
theorem of_same (hk : v.Kept) {w : Viewing} (hpolicy : w.policy = v.policy)
    (hsince : w.since = v.since) (htopic : v.topic <+: w.topic) (hgiven : w.given = v.given)
    (hdelivered : w.reader.delivered = v.reader.delivered)
    (hinitial : w.reader.initial = v.reader.initial) : w.Kept := by
  have hlast := last_congr hgiven
  constructor
  · rw [hgiven]
    exact hk.ascending
  · rw [hgiven]
    exact fun u hu => htopic.subset (hk.mem u hu)
  · rw [hgiven, hsince]
    exact hk.recent
  · rw [hdelivered, hlast]
    exact hk.delivered
  · rw [hsince]
    exact hk.since_le.trans htopic.length_le
  · rw [hpolicy, hinitial, hsince]
    exact hk.initial
  · rw [hpolicy, hinitial, hgiven, hsince]
    exact hk.started

theorem after (hk : v.Kept) (h : v.Follows s t) (c : DistributorCall) : (v.after c).Kept := by
  have htopic := prefix_topic_after v c
  by_cases hnext : c = .next v.number
  · subst hnext
    by_cases hupdate : ∃ u, v.next = .update u
    · obtain ⟨u, hu⟩ := hupdate
      exact hk.after_update h hu
    · have hdone := fun u hu => hupdate ⟨u, hu⟩
      obtain ⟨-, hidle, hdelivered, hinitial⟩ := h.outcome.done hdone
      have hreader := h.reader_after_next
      refine hk.of_same rfl rfl htopic (given_after_done hdone) ?_ ?_
      · rw [hreader, ← h.reader]
        exact hdelivered
      · rw [hreader, ← h.reader]
        exact hinitial
  · have hreader := reader_after_of_ne hnext
    exact hk.of_same rfl rfl htopic (given_after_of_ne hnext) (congrArg _ hreader)
      (congrArg _ hreader)

end Kept

/-! ## Views -/

theorem afterAll_concat (v : Viewing) (cs : List DistributorCall) (c : DistributorCall) :
    v.afterAll (cs ++ [c]) = (v.afterAll cs).after c :=
  List.foldl_concat ..

theorem afterAll_append (v : Viewing) (cs more : List DistributorCall) :
    v.afterAll (cs ++ more) = (v.afterAll cs).afterAll more :=
  List.foldl_append ..

theorem number_afterAll (v : Viewing) (cs : List DistributorCall) :
    (v.afterAll cs).number = v.number := by
  induction cs using List.reverseRecOn with
  | nil => rfl
  | append_singleton cs c ih => rw [afterAll_concat, ← ih, after]

/-- Whether a subscription that is held is where its view says, and its subscriber too. -/
def Held (v : Viewing) : Prop := v.Kept ∧ ∃ s t, v.Follows s t

theorem Held.after (h : v.Held) (hleave : c ≠ .leave v.number) : (v.after c).Held := by
  obtain ⟨hk, s, t, hf⟩ := h
  exact ⟨hk.after hf c, hf.after hleave⟩

theorem Held.afterAll (h : v.Held) {cs : List DistributorCall} (hcs : .leave v.number ∉ cs) :
    (v.afterAll cs).Held := by
  induction cs using List.reverseRecOn with
  | nil => exact h
  | append_singleton cs c ih =>
    simp only [List.mem_append, List.mem_singleton, not_or] at hcs
    rw [afterAll_concat]
    refine (ih hcs.1).after ?_
    rw [number_afterAll]
    exact Ne.symm hcs.2

theorem held_subscribed {h : Chronicle} {key : ObjectKey}
    (hsound : h.distributor.Sound fun _ _ => True)
    (hcurrent : h.current = h.distributor.updates key) (policy : DeliveryPolicy) :
    (subscribed h key policy).Held := by
  refine ⟨?_, Follows.subscribed hsound hcurrent policy⟩
  have hlatest : h.distributor.latest? key = h.current.getLast? := by
    rw [Distributor.latest?_eq, hcurrent]
  have hcounted : Counted h.current := by
    rw [hcurrent, ← Distributor.updates_of_topicOf]
    exact Topic.counted_updates _
  have hsince : ∀ u, h.current.getLast? = some u →
      (subscribed h key policy).since = u.version := by
    intro u hu
    rw [subscribed, hlatest, hu]
    rfl
  have hnone : h.current.getLast? = none → (subscribed h key policy).since = 0 := by
    intro hnone
    rw [subscribed, hlatest, hnone]
    rfl
  exact
    { ascending := .nil
      mem := by simp [subscribed]
      recent := by simp [subscribed]
      delivered := rfl
      since_le := by
        cases hu : h.current.getLast? with
        | none => exact (hnone hu).trans_le (Nat.zero_le _)
        | some u => exact ((hsince u hu).trans (hcounted.version_getLast? hu)).le
      initial := fun _ u hu => (hsince u hu).symm
      started := fun _ hu _ => hnone hu }

theorem held_ofCalls {buffer : Nat} {past : List DistributorCall} {key : ObjectKey}
    {policy : DeliveryPolicy} {cs : List DistributorCall}
    (h : .leave (ofCalls buffer past key policy cs).number ∉ cs) :
    (ofCalls buffer past key policy cs).Held := by
  rw [ofCalls, number_afterAll] at h
  exact (held_subscribed (Chronicle.sound_ofCalls buffer key past)
    (Chronicle.current_ofCalls buffer key past) policy).afterAll h

/-- Whether a subscriber sees its topic as it is. -/
structure Faithful (v : Viewing) : Prop where
  /-- The topic has the versions from one on, with the documents that were published. -/
  counted : Counted v.topic
  made : v.closed = false → ∀ c u, v.distributor.creates? v.key c = some u →
    u.version = v.topic.length + 1 ∧
      (c = .publish v.key u.config ∨ c = .remove v.key ∧ u.config = Document.empty)
  ascending : v.given.Pairwise fun u w => u.version < w.version
  mem : ∀ u ∈ v.given, u ∈ v.topic
  recent : ∀ u ∈ v.given, v.since ≤ u.version
  /-- What is next is what comes out of the channels of the topic. -/
  read : v.next = (v.reader.read v.policy v.channels).1
  newest : v.policy = .latest → ∀ u, v.next = .update u → v.topic.getLast? = some u
  pending : v.next = .pending ↔ v.closed = false ∧ v.given.getLast? = v.topic.getLast?
  /-- The view ends with the last update of the topic. -/
  ended : v.next = .ended ↔ v.closed = true ∧ v.given.getLast? = v.topic.getLast?
  last : v.closed = true → ∃ u, v.topic.getLast? = some u ∧ u.config = Document.empty

theorem last_eq_length_iff (hk : v.Kept) (h : v.Follows s t) :
    v.last = v.topic.length ↔ v.given.getLast? = v.topic.getLast? := by
  have hcounted := h.counted
  constructor
  · intro hlast
    by_cases hzero : v.last = 0
    · rw [hk.given_eq_nil h hzero, List.eq_nil_of_length_eq_zero (hlast.symm.trans hzero)]
    · obtain ⟨u, hu, hversion⟩ := exists_of_last hzero
      obtain ⟨i, hi⟩ := List.getElem?_of_mem (hk.mem u (List.mem_of_getLast? hu))
      have hplace := hcounted.version_getElem? hi
      rw [hu, List.getLast?_eq_getElem?, ← hi]
      congr 1
      omega
  · intro hsame
    unfold Viewing.last
    rw [hsame]
    cases hu : v.topic.getLast? with
    | none => rw [List.getLast?_eq_none_iff.1 hu]; rfl
    | some u => exact hcounted.version_getLast? hu

/-- The subscriber gets an update exactly if it was not given the newest one. -/
theorem next_eq_iff (hk : v.Kept) (h : v.Follows s t) :
    (v.next = .pending ↔ v.closed = false ∧ v.given.getLast? = v.topic.getLast?) ∧
    (v.next = .ended ↔ v.closed = true ∧ v.given.getLast? = v.topic.getLast?) := by
  rw [← last_eq_length_iff hk h]
  by_cases hupdate : ∃ u, v.next = .update u
  · obtain ⟨u, hu⟩ := hupdate
    have hbehind : v.last ≠ v.topic.length := by
      obtain ⟨hdue, hmem⟩ := hk.due_le h hu
      have hle := (h.counted.version_of_mem hmem).2
      unfold due at hdue
      omega
    rw [hu]
    exact ⟨⟨by rintro ⟨⟩, fun hd => absurd hd.2 hbehind⟩,
      ⟨by rintro ⟨⟩, fun hd => absurd hd.2 hbehind⟩⟩
  · have hdone := fun u hu => hupdate ⟨u, hu⟩
    have hlast := hk.last_of_done h hdone
    have hidle : v.next = if v.closed = true then .ended else .pending := by
      rw [(h.outcome.done hdone).2.1, Subscription.idle, h.isSome_closed]
    rw [hidle]
    cases v.closed with
    | false => simp [hlast]
    | true => simp [hlast]

theorem Held.faithful (h : v.Held) : v.Faithful := by
  obtain ⟨hk, s, t, hf⟩ := h
  obtain ⟨hpending, hended⟩ := next_eq_iff hk hf
  refine ⟨hf.counted, ?_, hk.ascending, hk.mem, hk.recent,
    by rw [hf.read], ?_, hpending, hended, ?_⟩
  · intro hopen c u hu
    obtain ⟨hpublished, hversion⟩ := Distributor.of_creates? hu
    rw [Distributor.updates_of_get? (hf.live hopen).2, hf.topic] at hversion
    exact ⟨hversion, hpublished⟩
  · intro hp u hu
    have ho := hf.outcome
    rw [hu] at ho
    rw [← hf.topic, t.getLast?_updates]
    exact ho.latest_update (hf.policy.trans hp)
  · intro hclosed
    obtain ⟨-, hempty, -⟩ := hf.ended hclosed
    rw [← hf.topic, t.getLast?_updates, Topic.latest?, hempty]
    exact ⟨_, rfl, rfl⟩

theorem closed_afterAll (hclosed : v.closed = true) (more : List DistributorCall) :
    (v.afterAll more).closed = true ∧ (v.afterAll more).topic = v.topic := by
  induction more using List.reverseRecOn with
  | nil => exact ⟨hclosed, rfl⟩
  | append_singleton more c ih =>
    rw [afterAll_concat]
    exact ⟨by simp [after, ih.1], (if_pos ih.1).trans ih.2⟩

theorem prefix_topic_afterAll (v : Viewing) (more : List DistributorCall) :
    v.topic <+: (v.afterAll more).topic := by
  induction more using List.reverseRecOn with
  | nil => exact List.prefix_rfl
  | append_singleton more c ih =>
    rw [afterAll_concat]
    exact ih.trans (prefix_topic_after ..)

/-- Whoever asks often enough gets to what was the newest version at first. -/
theorem Held.catch_up (h : v.Held) {more : List DistributorCall} (hmore : .leave v.number ∉ more) :
    min v.topic.length (v.last + more.count (.next v.number)) ≤ (v.afterAll more).last := by
  -- each question brings the subscriber one version further, unless it is there already
  induction more using List.reverseRecOn with
  | nil => exact Nat.min_le_right ..
  | append_singleton more c ih =>
    simp only [List.mem_append, not_or] at hmore
    have hbefore := ih hmore.1
    obtain ⟨hk, s, t, hf⟩ := h.afterAll hmore.1
    have hnumber := number_afterAll v more
    rw [afterAll_concat, List.count_append, List.count_singleton]
    by_cases hnext : c = .next v.number
    · rw [← hnumber] at hnext
      subst hnext
      by_cases hupdate : ∃ u, (v.afterAll more).next = .update u
      · obtain ⟨u, hu⟩ := hupdate
        have hdue := (hk.due_le hf hu).1
        rw [last_of_append (given_after_update hu)]
        unfold due at hdue
        rw [hnumber, beq_self_eq_true, if_pos rfl]
        omega
      · have hdone := fun u hu => hupdate ⟨u, hu⟩
        have hlast := hk.last_of_done hf hdone
        have hgrown := (prefix_topic_afterAll v more).length_le
        rw [last_congr (given_after_done hdone)]
        omega
    · rw [last_congr (given_after_of_ne (hnumber ▸ hnext)), if_neg (by simpa using hnext)]
      exact hbefore

theorem ofCalls_append (buffer : Nat) (past : List DistributorCall) (key : ObjectKey)
    (policy : DeliveryPolicy) (cs more : List DistributorCall) :
    ofCalls buffer past key policy (cs ++ more) =
      (ofCalls buffer past key policy cs).afterAll more :=
  afterAll_append _ cs more

/-- Whoever holds a subscription sees its topic as it is. Once the topic is closed, the subscriber
that asks on gets the empty document as its last update, and then nothing ever again, whatever
is published under the key. -/
theorem faithful_ofCalls (buffer : Nat) (past : List DistributorCall) (key : ObjectKey)
    (policy : DeliveryPolicy) (cs : List DistributorCall) :
    let view := ofCalls buffer past key policy
    .leave (view cs).number ∉ cs →
    (view cs).Faithful ∧
    ∀ more, .leave (view cs).number ∉ more → (view cs).closed = true →
      ((view cs).next = .ended → (view (cs ++ more)).next = .ended) ∧
      ((view cs).topic.length ≤ more.count (.next (view cs).number) →
        (view (cs ++ more)).given.getLast? = (view cs).topic.getLast? ∧
        (view (cs ++ more)).next = .ended) := by
  intro view h
  have hheld := held_ofCalls h
  refine ⟨hheld.faithful, fun more hmore hclosed => ?_⟩
  have happend : view (cs ++ more) = (view cs).afterAll more := ofCalls_append ..
  obtain ⟨hstill, htopic⟩ := closed_afterAll hclosed more
  obtain ⟨hk, s, t, hf⟩ := hheld.afterAll hmore
  have hended := (next_eq_iff hk hf).2
  -- the topic does not grow any more, so that what was caught up with is all of it
  have hwhole : (view cs).topic.length ≤ ((view cs).afterAll more).last →
      ((view cs).afterAll more).given.getLast? = (view cs).topic.getLast? := by
    intro hle
    rw [← htopic] at hle ⊢
    exact (last_eq_length_iff hk hf).1 ((hk.last_le hf).antisymm hle)
  have hcaught : min (view cs).topic.length
      ((view cs).last + more.count (.next (view cs).number)) ≤
        ((view cs).afterAll more).last := hheld.catch_up hmore
  rw [happend]
  refine ⟨fun hdone => ?_, fun hcount => ?_⟩
  · obtain ⟨hk₀, s₀, t₀, hf₀⟩ := hheld
    have hlast : (view cs).last = (view cs).topic.length :=
      (last_eq_length_iff hk₀ hf₀).2 ((next_eq_iff hk₀ hf₀).2.1 hdone).2
    exact hended.2 ⟨hstill, (hwhole (by omega)).trans (congrArg _ htopic.symm)⟩
  · have hgiven := hwhole (by omega)
    exact ⟨hgiven, hended.2 ⟨hstill, hgiven.trans (congrArg _ htopic.symm)⟩⟩

/-- A document, a question, the removal of the key, two questions, and another document. -/
def farewell : List DistributorCall := [
  .publish (.namespaced "a" "t1") { clusters := [{ name := "a/r", type := .static }] },
  .next 1,
  .remove (.namespaced "a" "t1"),
  .next 1,
  .next 1,
  .publish (.namespaced "a" "t1") { clusters := [{ name := "a/s", type := .static }] }]

/-- The subscriber gets the document and the empty one, and nothing of what comes later. -/
theorem faithful_farewell :
    DistributorCall.leave 1 ∉ farewell ∧
      (ofCalls 16 [] (.namespaced "a" "t1") .latest farewell).given.map (·.version) = [1, 2] ∧
      (ofCalls 16 [] (.namespaced "a" "t1") .latest farewell).Faithful := by
  refine ⟨by decide, by decide +kernel, ?_⟩
  have hstay : .leave (ofCalls 16 [] (.namespaced "a" "t1") .latest farewell).number ∉
      farewell := by decide +kernel
  exact (faithful_ofCalls 16 [] (.namespaced "a" "t1") .latest farewell hstay).1

/-! ## Every version -/

theorem retained_ofCalls (buffer : Nat) (past : List DistributorCall) (key : ObjectKey)
    (policy : DeliveryPolicy) (cs : List DistributorCall) :
    (ofCalls buffer past key policy cs).distributor.retained = (max buffer 1).nextPowerOfTwo := by
  have hbuffer : (ofCalls buffer past key policy cs).distributor.buffer = buffer := by
    induction cs using List.reverseRecOn with
    | nil =>
      show (Distributor.called _ (.subscribe key policy)).buffer = buffer
      rw [(Distributor.called_counts ..).1, Chronicle.buffer_ofCalls]
    | append_singleton cs c ih =>
      rw [ofCalls, afterAll_concat]
      exact (Distributor.called_counts ..).1.trans ih
  rw [Distributor.retained, hbuffer]

/-- Whether what was given has the versions one after the other, from the one that was there when
the subscriber came, or the first one. -/
def Consecutive (v : Viewing) : Prop :=
  v.given.map (·.version) = List.range' (max v.since 1) v.given.length

theorem due_of_consecutive (hk : v.Kept) (hgiven : v.Consecutive) :
    v.due = max v.since 1 + v.given.length := by
  rcases List.eq_nil_or_concat v.given with hnil | ⟨l, w, hl⟩
  · rw [due, last, hnil]
    rfl
  · rw [List.concat_eq_append] at hl
    have hsince := hk.since_le_last (by rw [hl]; simp)
    rw [Consecutive, hl, List.map_append, List.length_append, List.length_singleton,
      List.range'_concat] at hgiven
    obtain ⟨-, hw⟩ := List.append_inj' hgiven rfl
    have hversion : w.version = _ := List.singleton_inj.1 hw
    rw [last_of_append hl] at hsince
    rw [due, last_of_append hl, hl, List.length_append, List.length_singleton]
    omega

theorem consecutive_after (hk : v.Kept) (h : v.Follows s t) (hp : v.policy = .every)
    (hgiven : v.Consecutive) (hroom : v.unread ≤ v.distributor.retained) (c : DistributorCall) :
    (v.after c).Consecutive := by
  have hsame : (v.after c).given = v.given → (v.after c).Consecutive := by
    intro hsame
    rw [Consecutive, hsame]
    exact hgiven
  by_cases hnext : c = .next v.number
  · subst hnext
    by_cases hupdate : ∃ u, v.next = .update u
    · obtain ⟨u, hu⟩ := hupdate
      have hversion : u.version = v.due := by
        rcases hk.version_of_next h hp hu with hdue | ⟨hover, -⟩
        · exact hdue
        · exact absurd hroom (Nat.not_le.2 hover)
      rw [due_of_consecutive hk hgiven] at hversion
      have hsince : (v.after (.next v.number)).since = v.since := rfl
      rw [Consecutive, hsince, given_after_update hu, List.map_append, hgiven, List.length_append,
        List.length_singleton, List.range'_concat, Nat.one_mul, ← hversion]
      rfl
    · exact hsame (given_after_done fun u hu => hupdate ⟨u, hu⟩)
  · exact hsame (given_after_of_ne hnext)

theorem topic_afterAll_next (v : Viewing) (m n : Nat) :
    (v.afterAll (.replicate n (.next m))).topic = v.topic := by
  induction n with
  | zero => rfl
  | succ n ih => rw [List.replicate_succ', afterAll_concat, topic_after_next, ih]

theorem policy_afterAll (v : Viewing) (cs : List DistributorCall) :
    (v.afterAll cs).policy = v.policy := by
  induction cs using List.reverseRecOn with
  | nil => rfl
  | append_singleton cs c ih => rw [afterAll_concat, ← ih, after]

theorem consecutive_ofCalls {buffer : Nat} {past : List DistributorCall} {key : ObjectKey}
    {cs : List DistributorCall} (h : .leave (ofCalls buffer past key .every cs).number ∉ cs)
    (hroom : ∀ before, before <+: cs →
      (ofCalls buffer past key .every before).unread ≤ (max buffer 1).nextPowerOfTwo) :
    (ofCalls buffer past key .every cs).Consecutive := by
  induction cs using List.reverseRecOn with
  | nil => rfl
  | append_singleton cs c ih =>
    have hleave : .leave (ofCalls buffer past key .every cs).number ∉ cs := by
      rw [ofCalls, number_afterAll] at h ⊢
      exact fun hmem => h (List.mem_append_left _ hmem)
    have hgiven := ih hleave fun before hb => hroom before (hb.trans (List.prefix_append ..))
    obtain ⟨hk, s, t, hf⟩ := held_ofCalls hleave
    have hnow := hroom cs (List.prefix_append ..)
    rw [← retained_ofCalls buffer past key .every cs] at hnow
    rw [ofCalls, afterAll_concat]
    exact consecutive_after hk hf (policy_afterAll ..) hgiven hnow c

/-- A subscriber for every version gets them one after the other as long as never more are unread
than the ring keeps. What it gets next is the version that is due, or else more are unread than
the ring keeps and it is the newest one. Asking on until nothing is there leads to the newest
version. -/
theorem gapless_ofCalls (buffer : Nat) (past : List DistributorCall) (key : ObjectKey)
    (cs : List DistributorCall) :
    let view := ofCalls buffer past key .every
    let capacity := (max buffer 1).nextPowerOfTwo
    .leave (view cs).number ∉ cs →
    ((∀ before, before <+: cs → (view before).unread ≤ capacity) → (view cs).Consecutive) ∧
    (∀ u, (view cs).next = .update u → u.version = (view cs).due ∨
      capacity < (view cs).unread ∧ (view cs).topic.getLast? = some u) ∧
    ((∀ u, (view cs).next ≠ .update u) →
      (view cs).given.getLast? = (view cs).topic.getLast?) ∧
    ∀ n, (view cs).topic.length ≤ n →
      (view (cs ++ List.replicate n (.next (view cs).number))).given.getLast? =
        (view cs).topic.getLast? := by
  intro view capacity h
  have hheld : (view cs).Held := held_ofCalls h
  obtain ⟨hk, s, t, hf⟩ := id hheld
  refine ⟨consecutive_ofCalls h, fun u hu => ?_, fun hdone => ?_, fun n hn => ?_⟩
  · have hnext := hk.version_of_next hf (policy_afterAll ..) hu
    rwa [retained_ofCalls] at hnext
  · exact (last_eq_length_iff hk hf).1 (hk.last_of_done hf hdone)
  · rw [show view (cs ++ _) = (view cs).afterAll _ from ofCalls_append ..]
    have hstay : DistributorCall.leave (view cs).number ∉
        List.replicate n (.next (view cs).number) := by
      intro hmem
      exact absurd (List.eq_of_mem_replicate hmem) (by rintro ⟨⟩)
    have htopic := topic_afterAll_next (view cs) (view cs).number n
    have hcaught := hheld.catch_up hstay
    rw [List.count_replicate_self] at hcaught
    obtain ⟨hk', s', t', hf'⟩ := hheld.afterAll hstay
    have hle := hk'.last_le hf'
    rw [htopic] at hle
    rw [← htopic]
    exact (last_eq_length_iff hk' hf').1 (htopic ▸ hle.antisymm (by omega))

/-- Three documents for a ring of one, a question before the first and two at the end. -/
def overrun : List DistributorCall := [
  .publish (.namespaced "a" "t1") { clusters := [{ name := "a/r", type := .static }] },
  .next 1,
  .publish (.namespaced "a" "t1") { clusters := [{ name := "a/s", type := .static }] },
  .publish (.namespaced "a" "t1") { clusters := [{ name := "a/t", type := .static }] }]

theorem gapless_overrun :
    DistributorCall.leave 1 ∉ overrun ∧
      (ofCalls 1 [] (.namespaced "a" "t1") .every overrun).unread = 2 ∧
      ((ofCalls 1 [] (.namespaced "a" "t1") .every overrun).next.update?.map (·.version)) = some 3 ∧
      ∀ u, (ofCalls 1 [] (.namespaced "a" "t1") .every overrun).next = .update u →
        u.version = (ofCalls 1 [] (.namespaced "a" "t1") .every overrun).due ∨
          (max 1 1).nextPowerOfTwo < (ofCalls 1 [] (.namespaced "a" "t1") .every overrun).unread ∧
            (ofCalls 1 [] (.namespaced "a" "t1") .every overrun).topic.getLast? = some u := by
  refine ⟨by decide, by decide +kernel, by decide +kernel, ?_⟩
  have hstay : .leave (ofCalls 1 [] (.namespaced "a" "t1") .every overrun).number ∉
      overrun := by decide +kernel
  exact (gapless_ofCalls 1 [] (.namespaced "a" "t1") overrun hstay).2.1

end Viewing

end RelayFleet
