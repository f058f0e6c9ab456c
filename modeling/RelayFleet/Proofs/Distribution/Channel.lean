/-
How a subscription is read off the channels of its topic. A topic hands every update to two
channels: a cell that keeps the newest one, and a ring that keeps a number of them for receivers
that take one after the other. A receiver that is behind what the ring keeps is told so once, and
goes on at the oldest one kept. A subscriber reads these channels in a loop and lets nothing pass
that is not newer than what it was given last. What a subscription of a distributor answers is what
this loop does (`next_eq_read`).
-/
import RelayFleet.Proofs.Distribution.Calls

namespace RelayFleet

/-! ## The ring -/

/-- A channel that keeps the updates sent over it last, oldest first. -/
structure Ring where
  capacity : Nat
  /-- How many were sent in all. -/
  sent : Nat := 0
  kept : List ConfigUpdate := []
  kept_le_sent : kept.length ≤ sent := by decide

/-- What a receiver takes from a ring. -/
inductive Receipt where
  | update (u : ConfigUpdate)
  /-- Some are not kept any more. -/
  | lagged
  | nothing

namespace Ring

/-- Sends an update; what is over the capacity is dropped. -/
def send (r : Ring) (u : ConfigUpdate) : Ring where
  capacity := r.capacity
  sent := r.sent + 1
  kept := (r.kept ++ [u]).drop (r.kept.length + 1 - r.capacity)
  kept_le_sent := by
    have := r.kept_le_sent
    simp only [List.length_drop, List.length_append, List.length_singleton]
    omega

theorem capacity_send (r : Ring) (u : ConfigUpdate) : (r.send u).capacity = r.capacity := rfl

theorem sent_send (r : Ring) (u : ConfigUpdate) : (r.send u).sent = r.sent + 1 := rfl

theorem kept_send (r : Ring) (u : ConfigUpdate) :
    (r.send u).kept = (r.kept ++ [u]).drop (r.kept.length + 1 - r.capacity) := rfl

/-- The number of updates that are not kept any more. -/
def dropped (r : Ring) : Nat := r.sent - r.kept.length

/-- Takes what comes after a number of updates that were taken or missed; answers with that number
afterwards. -/
def receive (r : Ring) (position : Nat) : Receipt × Nat :=
  if position < r.dropped then (.lagged, r.dropped)
  else match r.kept[position - r.dropped]? with
    | some u => (.update u, position + 1)
    | none => (.nothing, position)

/-- The ring over which updates were sent. -/
def ofUpdates (capacity : Nat) (us : List ConfigUpdate) : Ring := us.foldl send { capacity }

theorem ofUpdates_concat (capacity : Nat) (us : List ConfigUpdate) (u : ConfigUpdate) :
    ofUpdates capacity (us ++ [u]) = (ofUpdates capacity us).send u :=
  List.foldl_concat ..

theorem capacity_ofUpdates (capacity : Nat) (us : List ConfigUpdate) :
    (ofUpdates capacity us).capacity = capacity := by
  induction us using List.reverseRecOn with
  | nil => rfl
  | append_singleton us u ih => rw [ofUpdates_concat, capacity_send, ih]

theorem sent_ofUpdates (capacity : Nat) (us : List ConfigUpdate) :
    (ofUpdates capacity us).sent = us.length := by
  induction us using List.reverseRecOn with
  | nil => rfl
  | append_singleton us u ih =>
    rw [ofUpdates_concat, sent_send, ih, List.length_append, List.length_singleton]

theorem kept_ofUpdates (capacity : Nat) (us : List ConfigUpdate) :
    (ofUpdates capacity us).kept = us.drop (us.length - capacity) := by
  induction us using List.reverseRecOn with
  | nil => exact List.drop_nil.symm
  | append_singleton us u ih =>
    rw [ofUpdates_concat, kept_send, ih, capacity_ofUpdates,
      ← List.drop_append_of_le_length (Nat.sub_le ..), List.drop_drop]
    congr 1
    simp only [List.length_drop, List.length_append, List.length_singleton]
    omega

theorem dropped_ofUpdates (capacity : Nat) (us : List ConfigUpdate) :
    (ofUpdates capacity us).dropped = us.length - capacity := by
  rw [dropped, sent_ofUpdates, kept_ofUpdates, List.length_drop]
  omega

/-- A receiver that is behind by more than the capacity is told so; any other one takes the next
update, if there is one. -/
theorem receive_ofUpdates (capacity : Nat) (us : List ConfigUpdate) (position : Nat) :
    (ofUpdates capacity us).receive position =
      if position + capacity < us.length then (.lagged, us.length - capacity)
      else match us[position]? with
        | some u => (.update u, position + 1)
        | none => (.nothing, position) := by
  rw [receive, dropped_ofUpdates, kept_ofUpdates]
  by_cases h : position + capacity < us.length
  · rw [if_pos (by omega), if_pos h]
  · have hindex : us.length - capacity + (position - (us.length - capacity)) = position := by omega
    rw [if_neg (by omega), if_neg h, List.getElem?_drop, hindex]

/-- Whatever a receiver takes, it gets further. -/
theorem lt_of_receive {r : Ring} {position : Nat} {x : Receipt} {p : Nat}
    (h : r.receive position = (x, p)) :
    (∃ u, x = .update u) ∨ x = .lagged → position < p ∧ p ≤ r.sent := by
  have hkept := r.kept_le_sent
  unfold receive dropped at h
  split at h
  · cases h
    intro _
    omega
  · split at h
    · rename_i hu
      cases h
      intro _
      have := (List.getElem?_eq_some_iff.1 hu).1
      omega
    · cases h
      rintro (⟨u, hu⟩ | hu) <;> cases hu

end Ring

/-! ## Reading -/

/-- The channels of a topic. -/
structure Channels where
  newest : Option ConfigUpdate
  ring : Ring
  /-- Whether nothing will be sent any more. -/
  closed : Bool

/-- The channels over which updates were sent. -/
def Channels.ofUpdates (capacity : Nat) (us : List ConfigUpdate) (closed : Bool) : Channels where
  newest := us.getLast?
  ring := Ring.ofUpdates capacity us
  closed := closed

/-- How far a subscriber has come. -/
structure Reader where
  /-- What was the newest update when the subscriber came, until it has been given. -/
  initial : Option ConfigUpdate
  /-- How many updates it took from the ring, missed there, or was too late for. -/
  position : Nat
  /-- The newest version that it was given. -/
  delivered : Nat := 0

namespace Reader

/-- An update, if it is newer than all that was given. -/
def newer (r : Reader) (u : Option ConfigUpdate) : Option ConfigUpdate :=
  u.filter (r.delivered < ·.version)

/-- Gives an update. -/
def give (r : Reader) (u : ConfigUpdate) : Delivery × Reader :=
  (.update u, { r with delivered := u.version })

/-- The reader at another place of the ring. -/
def moveTo (r : Reader) (position : Nat) : Reader := { r with position }

/-- Gives the newest update once the channels are closed. -/
def finish (r : Reader) (c : Channels) : Delivery × Reader :=
  if c.closed then
    match r.newer c.newest with
    | some u => r.give u
    | none => (.ended, r)
  else (.pending, r)

/-- Reads the cell. -/
def readNewest (r : Reader) (c : Channels) : Delivery × Reader :=
  match r.newer c.newest with
  | some u => r.give u
  | none => r.finish c

/-- Reads the ring, and the cell after having missed something. -/
def readRing (r : Reader) (c : Channels) : Delivery × Reader :=
  match _h : c.ring.receive r.position with
  | (.update u, p) =>
    match r.newer (some u) with
    | some u => (r.moveTo p).give u
    | none => (r.moveTo p).readRing c
  | (.lagged, p) =>
    match r.newer c.newest with
    | some u => (r.moveTo p).give u
    | none => (r.moveTo p).readRing c
  | (.nothing, _) => r.finish c
termination_by c.ring.sent - r.position
decreasing_by
  all_goals
    have := Ring.lt_of_receive _h (by simp)
    dsimp only [moveTo]
    omega

/-- Reads every update: first the one that was there when the subscriber came. -/
def readEvery (r : Reader) (c : Channels) : Delivery × Reader :=
  match r.initial with
  | some u =>
    match r.newer (some u) with
    | some u => { r with initial := none }.give u
    | none => { r with initial := none }.readRing c
  | none => r.readRing c

/-- Reads what is next. -/
def read (policy : DeliveryPolicy) (r : Reader) (c : Channels) : Delivery × Reader :=
  match policy with
  | .latest => r.readNewest c
  | .every => r.readEvery c

end Reader

/-- Whether updates have the versions from one on. -/
def Counted (us : List ConfigUpdate) : Prop := us.map (·.version) = List.range' 1 us.length

namespace Counted

variable {us : List ConfigUpdate} {u : ConfigUpdate}

theorem version_getElem? (h : Counted us) {i : Nat} (hu : us[i]? = some u) : u.version = i + 1 := by
  have hmap := congrArg (fun l : List Nat => l[i]?) h
  obtain ⟨hi, -⟩ := List.getElem?_eq_some_iff.1 hu
  simp only [List.getElem?_map, hu, Option.map_some, List.getElem?_range' hi] at hmap
  have := Option.some.inj hmap
  omega

theorem version_getLast? (h : Counted us) (hu : us.getLast? = some u) : u.version = us.length := by
  rw [List.getLast?_eq_getElem?] at hu
  have hversion := h.version_getElem? hu
  obtain ⟨hi, -⟩ := List.getElem?_eq_some_iff.1 hu
  omega

theorem version_of_mem (h : Counted us) (hu : u ∈ us) : 0 < u.version ∧ u.version ≤ us.length := by
  obtain ⟨i, hi⟩ := List.getElem?_of_mem hu
  have hversion := h.version_getElem? hi
  obtain ⟨hlt, -⟩ := List.getElem?_eq_some_iff.1 hi
  omega

end Counted

namespace Reader

variable {capacity : Nat} {us : List ConfigUpdate} {closed : Bool} {r : Reader} {u : ConfigUpdate}

theorem newer_of_lt (h : r.delivered < u.version) : r.newer (some u) = some u :=
  Option.filter_eq_some_iff.2 ⟨rfl, decide_eq_true h⟩

theorem newer_of_le (h : u.version ≤ r.delivered) : r.newer (some u) = none := by
  refine Option.filter_eq_none_iff.2 fun v hv => ?_
  rw [← Option.some.inj hv, decide_eq_true_eq]
  exact Nat.not_lt.2 h

/-- Nothing is newer once the newest update was given. -/
theorem newer_of_done (hus : Counted us) (hd : r.delivered = us.length) :
    r.newer us.getLast? = none := by
  cases hu : us.getLast? with
  | none => rfl
  | some u => exact newer_of_le ((hus.version_getLast? hu).trans hd.symm).le

theorem finish_of_done (capacity : Nat) (hus : Counted us) (hd : r.delivered = us.length) :
    r.finish (.ofUpdates capacity us closed) = (if closed then .ended else .pending, r) := by
  unfold finish Channels.ofUpdates
  cases closed with
  | true => simp only [if_true, newer_of_done hus hd]
  | false => rfl

/-- One round of the loop. -/
theorem readRing_eq (r : Reader) (c : Channels) :
    r.readRing c =
      match c.ring.receive r.position with
      | (.update u, p) =>
        match r.newer (some u) with
        | some u => (r.moveTo p).give u
        | none => (r.moveTo p).readRing c
      | (.lagged, p) =>
        match r.newer c.newest with
        | some u => (r.moveTo p).give u
        | none => (r.moveTo p).readRing c
      | (.nothing, _) => r.finish c := by
  rw [readRing]
  split <;> rename_i hp <;> rw [hp]

theorem readNewest_of_lt (hu : us.getLast? = some u) (hlt : r.delivered < u.version) :
    r.readNewest (.ofUpdates capacity us closed) = r.give u := by
  simp only [readNewest, Channels.ofUpdates, hu, newer_of_lt hlt]

theorem readNewest_of_done (hus : Counted us) (hd : r.delivered = us.length) :
    r.readNewest (.ofUpdates capacity us closed) = (if closed then .ended else .pending, r) := by
  rw [← finish_of_done capacity hus hd, readNewest]
  simp only [Channels.ofUpdates, newer_of_done hus hd]

theorem readRing_ofUpdates (r : Reader) (capacity : Nat) (us : List ConfigUpdate) (closed : Bool) :
    r.readRing (.ofUpdates capacity us closed) =
      if r.position + capacity < us.length then
        match r.newer us.getLast? with
        | some u => (r.moveTo (us.length - capacity)).give u
        | none => (r.moveTo (us.length - capacity)).readRing (.ofUpdates capacity us closed)
      else match us[r.position]? with
        | some u =>
          match r.newer (some u) with
          | some u => (r.moveTo (r.position + 1)).give u
          | none => (r.moveTo (r.position + 1)).readRing (.ofUpdates capacity us closed)
        | none => r.finish (.ofUpdates capacity us closed) := by
  rw [readRing_eq]
  show (match (Ring.ofUpdates capacity us).receive r.position with
    | (.update u, p) => _
    | (.lagged, p) => _
    | (.nothing, _) => _) = _
  rw [Ring.receive_ofUpdates]
  split_ifs
  · rfl
  · cases us[r.position]? <;> rfl

/-- Once the newest update was given, the ring is read to its end, and nothing of it passes. -/
theorem readRing_of_done (hus : Counted us) (hle : r.position ≤ us.length)
    (hd : r.delivered = us.length) :
    r.readRing (.ofUpdates capacity us closed) =
      (if closed then .ended else .pending, r.moveTo us.length) := by
  -- by induction on what is left in the ring
  induction hn : us.length - r.position using Nat.strong_induction_on generalizing r with
  | _ n ih =>
    rw [readRing_ofUpdates]
    split
    · rename_i hover
      rw [newer_of_done hus hd]
      have hless : us.length - (us.length - capacity) < n := by omega
      exact ih _ hless (Nat.sub_le ..) hd rfl
    · rcases hu : us[r.position]? with - | u
      · have hend : r.position = us.length := by
          have := List.getElem?_eq_none_iff.1 hu
          omega
        show r.finish _ = _
        rw [finish_of_done capacity hus hd, ← hend]
        rfl
      · obtain ⟨hi, -⟩ := List.getElem?_eq_some_iff.1 hu
        have hold : u.version ≤ r.delivered := by
          rw [hus.version_getElem? hu]
          omega
        show (match r.newer (some u) with
          | some u => _
          | none => _) = _
        rw [newer_of_le hold]
        have hless : us.length - (r.position + 1) < n := by omega
        exact ih _ hless hi hd rfl

/-- After an overrun the newest update is given. -/
theorem readRing_of_overrun (hover : r.position + capacity < us.length)
    (hu : us.getLast? = some u) (hlt : r.delivered < u.version) :
    r.readRing (.ofUpdates capacity us closed) = (r.moveTo (us.length - capacity)).give u := by
  rw [readRing_ofUpdates, if_pos hover, hu, newer_of_lt hlt]

/-- Without an overrun what was given is passed over, and the next update is given. -/
theorem readRing_of_room (hus : Counted us) (hroom : us.length ≤ r.position + capacity)
    (hle : r.position ≤ r.delivered) (hu : us[r.delivered]? = some u) :
    r.readRing (.ofUpdates capacity us closed) = (r.moveTo (r.delivered + 1)).give u := by
  have hversion := hus.version_getElem? hu
  obtain ⟨hd, -⟩ := List.getElem?_eq_some_iff.1 hu
  -- by induction on what was given, but not taken from the ring
  induction hn : r.delivered - r.position generalizing r with
  | zero =>
    have hplace : r.position = r.delivered := by omega
    rw [readRing_ofUpdates, if_neg (by omega), hplace, hu]
    show (match r.newer (some u) with
      | some u => _
      | none => _) = _
    rw [newer_of_lt (by omega)]
  | succ n ih =>
    have hi : r.position < us.length := by omega
    have hold : us[r.position].version ≤ r.delivered := by
      rw [hus.version_getElem? (List.getElem?_eq_getElem hi)]
      omega
    rw [readRing_ofUpdates, if_neg (by omega), List.getElem?_eq_getElem hi]
    show (match r.newer (some us[r.position]) with
      | some u => _
      | none => _) = _
    rw [newer_of_le hold]
    exact ih (r := r.moveTo (r.position + 1)) (by dsimp only [moveTo]; omega)
      (by dsimp only [moveTo]; omega) hu hversion hd (by dsimp only [moveTo]; omega)

end Reader

/-! ## Subscriptions -/

theorem Topic.counted_updates (t : Topic) : Counted t.updates := by
  rw [Counted, versions_updates, length_updates]

theorem Topic.version_of_latest? {t : Topic} {u : ConfigUpdate} (h : t.latest? = some u) :
    u.version = t.version := by
  rw [← getLast?_updates] at h
  rw [t.counted_updates.version_getLast? h, length_updates]

theorem Topic.version_of_update? {t : Topic} {i : Nat} {u : ConfigUpdate}
    (h : t.update? i = some u) : u.version = i ∧ 0 < i ∧ i ≤ t.version := by
  cases i with
  | zero => cases h
  | succ i =>
    rw [← getElem?_updates] at h
    obtain ⟨hi, -⟩ := List.getElem?_eq_some_iff.1 h
    rw [length_updates] at hi
    exact ⟨t.counted_updates.version_getElem? h, Nat.succ_pos i, hi⟩

theorem Topic.update?_of_latest? {t : Topic} {u : ConfigUpdate} (h : t.latest? = some u) :
    t.update? u.version = some u := by
  rw [version_of_latest? h, ← length_updates]
  rw [← getLast?_updates, List.getLast?_eq_getElem?] at h
  obtain ⟨hi, -⟩ := List.getElem?_eq_some_iff.1 h
  obtain ⟨n, hn⟩ : ∃ n, t.updates.length = n + 1 := Nat.exists_eq_succ_of_ne_zero (by omega)
  rw [hn, Nat.add_sub_cancel, getElem?_updates] at h
  rwa [hn]

theorem Topic.version_of_latest?_eq_none {t : Topic} (h : t.latest? = none) : t.version = 0 := by
  rw [← getLast?_updates, List.getLast?_eq_none_iff] at h
  rw [← length_updates, h, List.length_nil]

theorem Topic.exists_update? {t : Topic} {i : Nat} (h : i < t.version) :
    ∃ u, t.update? (i + 1) = some u := by
  rw [← length_updates] at h
  exact ⟨t.updates[i], by rw [← getElem?_updates, List.getElem?_eq_getElem h]⟩

namespace Subscription

/-- A subscription's place among the updates of its topic. -/
structure Placed (s : Subscription) (t : Topic) : Prop where
  delivered_le : s.delivered ≤ t.version
  taken_le : s.policy = .every → s.initial = none → s.taken ≤ s.delivered
  initial : s.policy = .every → ∀ u, s.initial = some u →
    t.update? u.version = some u ∧ s.taken = u.version ∧ s.delivered = 0

theorem Placed.new (t : Topic) (key : ObjectKey) (policy : DeliveryPolicy) :
    Placed { key, policy, topic := t.id, initial := t.latest?, taken := t.version } t := by
  refine ⟨Nat.zero_le _, fun _ hnone => ?_, fun _ u hu => ?_⟩
  · exact (Topic.version_of_latest?_eq_none hnone).le
  · exact ⟨Topic.update?_of_latest? hu, (Topic.version_of_latest? hu).symm, rfl⟩

/-- A subscription keeps its place when its topic grows. -/
theorem Placed.mono {s : Subscription} {t t' : Topic} (h : s.Placed t)
    (hgrown : t.updates <+: t'.updates) : s.Placed t' := by
  have hle : t.version ≤ t'.version := by
    rw [← t.length_updates, ← t'.length_updates]
    exact hgrown.length_le
  refine ⟨h.delivered_le.trans hle, h.taken_le, fun hp u hu => ?_⟩
  obtain ⟨hupdate, hplace⟩ := h.initial hp u hu
  refine ⟨?_, hplace⟩
  obtain ⟨n, hn⟩ := Nat.exists_eq_succ_of_ne_zero (Topic.version_of_update? hupdate).2.1.ne'
  rw [hn, Nat.succ_eq_add_one, ← Topic.getElem?_updates] at hupdate ⊢
  obtain ⟨more, hmore⟩ := hgrown
  rw [← hmore]
  exact (List.getElem?_append_left (List.getElem?_eq_some_iff.1 hupdate).1).trans hupdate

theorem Placed.close {s : Subscription} {t : Topic} (h : s.Placed t) (closed : Option Topic) :
    Placed { s with closed } t :=
  ⟨h.delivered_le, h.taken_le, h.initial⟩

/-- What a subscription may answer when it is asked for what is next, and what becomes of it. -/
inductive Outcome (s : Subscription) (retained : Nat) (t : Topic) : Delivery → Subscription → Prop
  | newest {u : ConfigUpdate} (hp : s.policy = .latest) (hu : t.latest? = some u)
    (hlt : s.delivered < u.version) :
    Outcome s retained t (.update u) { s with delivered := u.version }
  | latestIdle (hp : s.policy = .latest) (hd : s.delivered = t.version) :
    Outcome s retained t s.idle s
  | initial {u : ConfigUpdate} (hp : s.policy = .every) (hi : s.initial = some u) :
    Outcome s retained t (.update u) { s with initial := none, delivered := u.version }
  | overrun {u : ConfigUpdate} (hp : s.policy = .every) (hi : s.initial = none)
    (hover : s.taken + retained < t.version) (hu : t.latest? = some u)
    (hlt : s.delivered < u.version) :
    Outcome s retained t (.update u)
      { s with taken := t.version - retained, delivered := u.version }
  | following {u : ConfigUpdate} (hp : s.policy = .every) (hi : s.initial = none)
    (hroom : t.version ≤ s.taken + retained) (hu : t.update? (s.delivered + 1) = some u) :
    Outcome s retained t (.update u) { s with taken := s.delivered + 1, delivered := u.version }
  | everyIdle (hp : s.policy = .every) (hi : s.initial = none) (hd : s.delivered = t.version) :
    Outcome s retained t s.idle { s with taken := t.version }

variable {s s' : Subscription} {t : Topic} {retained : Nat} {x : Delivery}

theorem idle_ne_update (s : Subscription) (u : ConfigUpdate) : s.idle ≠ .update u := by
  unfold idle
  split <;> rintro ⟨⟩

theorem latest?_filter_eq_none {n : Nat} (h : t.latest?.filter (n < ·.version) = none) :
    t.version ≤ n := by
  rcases hu : t.latest? with - | u
  · exact (Topic.version_of_latest?_eq_none hu).trans_le (Nat.zero_le n)
  · have hold := Option.filter_eq_none_iff.1 h u hu
    rw [decide_eq_true_eq, Topic.version_of_latest? hu] at hold
    exact Nat.not_lt.1 hold

theorem nextRetained_of_done (hle : s.taken ≤ s.delivered) (hd : s.delivered = t.version) :
    s.nextRetained t = (s.idle, { s with taken := t.version }) := by
  have hnone : t.update? (s.delivered + 1) = none := by
    rw [← Topic.getElem?_updates, List.getElem?_eq_none_iff, Topic.length_updates, hd]
  rw [nextRetained, Nat.max_eq_right hle]
  simp only [hnone]

theorem outcome_nextRetained (hp : s.policy = .every) (hi : s.initial = none)
    (hle : s.taken ≤ s.delivered) (hd : s.delivered ≤ t.version)
    (hroom : t.version ≤ s.taken + retained) :
    Outcome s retained t (s.nextRetained t).1 (s.nextRetained t).2 := by
  rcases hd.lt_or_eq with hlt | hdone
  · obtain ⟨u, hu⟩ := Topic.exists_update? hlt
    have hnext : s.nextRetained t =
        (.update u, { s with taken := s.delivered + 1, delivered := u.version }) := by
      rw [nextRetained, Nat.max_eq_right hle]
      simp only [hu, deliver]
    rw [hnext]
    exact .following hp hi hroom hu
  · rw [nextRetained_of_done hle hdone]
    exact .everyIdle hp hi hdone

/-- What a subscription in its place answers. -/
theorem outcome_next (h : s.Placed t) (retained : Nat) :
    Outcome s retained t (s.next retained t).1 (s.next retained t).2 := by
  unfold next
  split
  · rename_i hp
    unfold nextLatest
    split
    · rename_i u hu
      obtain ⟨hlatest, hlt⟩ := Option.filter_eq_some_iff.1 hu
      exact .newest hp hlatest (of_decide_eq_true hlt)
    · rename_i hnone
      exact .latestIdle hp (h.delivered_le.antisymm (latest?_filter_eq_none hnone))
  · rename_i hp
    unfold nextEvery
    split
    · rename_i u hu
      exact .initial hp hu
    · rename_i hi
      have hle := h.taken_le hp hi
      split
      · rename_i hover
        simp only
        split
        · rename_i u hu
          obtain ⟨hlatest, hlt⟩ := Option.filter_eq_some_iff.1 hu
          exact .overrun hp hi hover hlatest (of_decide_eq_true hlt)
        · rename_i hnone
          -- the newest one was given already, and nothing is left in the ring
          have hd := h.delivered_le.antisymm (latest?_filter_eq_none hnone)
          rw [nextRetained_of_done (s := { s with taken := t.version - retained })
            (hd ▸ Nat.sub_le ..) hd]
          exact .everyIdle hp hi hd
      · rename_i hroom
        exact outcome_nextRetained hp hi hle h.delivered_le (Nat.not_lt.1 hroom)

/-- A subscription keeps its place. -/
theorem Outcome.placed (ho : Outcome s retained t x s') (h : s.Placed t) : s'.Placed t := by
  cases ho with
  | newest hp hu hlt =>
    refine ⟨(Topic.version_of_latest? hu).le, fun he => ?_, fun he => ?_⟩ <;>
      rw [hp] at he <;> cases he
  | latestIdle hp hd => exact h
  | initial hp hi =>
    obtain ⟨hu, htaken, -⟩ := h.initial hp _ hi
    exact ⟨(Topic.version_of_update? hu).2.2, fun _ _ => htaken.le, by rintro _ _ ⟨⟩⟩
  | overrun hp hi hover hu hlt =>
    have hversion := Topic.version_of_latest? hu
    refine ⟨hversion.le, fun _ _ => ?_, fun _ v hv => ?_⟩
    · exact hversion ▸ Nat.sub_le ..
    · exact absurd (hi.symm.trans hv) (by rintro ⟨⟩)
  | following hp hi hroom hu =>
    obtain ⟨hversion, -, hle⟩ := Topic.version_of_update? hu
    refine ⟨hversion ▸ hle, fun _ _ => hversion.ge, fun _ v hv => ?_⟩
    exact absurd (hi.symm.trans hv) (by rintro ⟨⟩)
  | everyIdle hp hi hd =>
    refine ⟨hd.le, fun _ _ => hd.ge, fun _ v hv => ?_⟩
    exact absurd (hi.symm.trans hv) (by rintro ⟨⟩)

theorem Outcome.policy (ho : Outcome s retained t x s') : s'.policy = s.policy := by
  cases ho <;> rfl

/-- What is given is newer than all that was given, and is in the topic. -/
theorem Outcome.lt_of_update {u : ConfigUpdate} (ho : Outcome s retained t (.update u) s')
    (h : s.Placed t) : s.delivered < u.version ∧ u ∈ t.updates ∧ s'.delivered = u.version := by
  have hmem : ∀ {i : Nat}, t.update? (i + 1) = some u → u ∈ t.updates := fun hu =>
    List.mem_of_getElem? ((t.getElem?_updates _).trans hu)
  generalize hx : Delivery.update u = x at ho
  cases ho with
  | newest hp hu hlt =>
    obtain rfl := Delivery.update.inj hx
    exact ⟨hlt, List.mem_of_getLast? (t.getLast?_updates.trans hu), rfl⟩
  | latestIdle hp hd => exact absurd hx.symm (idle_ne_update s u)
  | initial hp hi =>
    obtain rfl := Delivery.update.inj hx
    obtain ⟨hu, -, hd⟩ := h.initial hp _ hi
    obtain ⟨n, hn⟩ := Nat.exists_eq_succ_of_ne_zero (Topic.version_of_update? hu).2.1.ne'
    exact ⟨hd ▸ (Topic.version_of_update? hu).2.1, hmem (hn ▸ hu), rfl⟩
  | overrun hp hi hover hu hlt =>
    obtain rfl := Delivery.update.inj hx
    exact ⟨hlt, List.mem_of_getLast? (t.getLast?_updates.trans hu), rfl⟩
  | following hp hi hroom hu =>
    obtain rfl := Delivery.update.inj hx
    exact ⟨(Topic.version_of_update? hu).1 ▸ Nat.lt_succ_self _, hmem hu, rfl⟩
  | everyIdle hp hi hd => exact absurd hx.symm (idle_ne_update s u)

theorem Outcome.latest_update {u : ConfigUpdate} (ho : Outcome s retained t (.update u) s')
    (hp : s.policy = .latest) : t.latest? = some u := by
  generalize hx : Delivery.update u = x at ho
  cases ho with
  | newest _ hu _ =>
    obtain rfl := Delivery.update.inj hx
    exact hu
  | latestIdle _ _ => exact absurd hx.symm (idle_ne_update s u)
  | initial he _ => exact absurd (hp.symm.trans he) (by rintro ⟨⟩)
  | overrun he _ _ _ _ => exact absurd (hp.symm.trans he) (by rintro ⟨⟩)
  | following he _ _ _ => exact absurd (hp.symm.trans he) (by rintro ⟨⟩)
  | everyIdle he _ _ => exact absurd (hp.symm.trans he) (by rintro ⟨⟩)

/-- Under the other policy an update is the first one, the next one, or the newest one after an
overrun. -/
theorem Outcome.every_update {u : ConfigUpdate} (ho : Outcome s retained t (.update u) s')
    (hp : s.policy = .every) :
    s'.initial = none ∧ (s.initial = some u ∨ s.initial = none ∧ (u.version = s.delivered + 1 ∨
      s.taken + retained < t.version ∧ t.latest? = some u)) := by
  generalize hx : Delivery.update u = x at ho
  cases ho with
  | newest hl _ _ => exact absurd (hl.symm.trans hp) (by rintro ⟨⟩)
  | latestIdle hl _ => exact absurd (hl.symm.trans hp) (by rintro ⟨⟩)
  | initial _ hi =>
    obtain rfl := Delivery.update.inj hx
    exact ⟨rfl, .inl hi⟩
  | overrun _ hi hover hu _ =>
    obtain rfl := Delivery.update.inj hx
    exact ⟨hi, .inr ⟨hi, .inr ⟨hover, hu⟩⟩⟩
  | following _ hi _ hu =>
    obtain rfl := Delivery.update.inj hx
    exact ⟨hi, .inr ⟨hi, .inl (Topic.version_of_update? hu).1⟩⟩
  | everyIdle _ _ _ => exact absurd hx.symm (idle_ne_update s u)

/-- A subscription that gives no update has given the newest one. -/
theorem Outcome.done (ho : Outcome s retained t x s') (hx : ∀ u, x ≠ .update u) :
    s.delivered = t.version ∧ x = s.idle ∧ s'.delivered = s.delivered ∧ s'.initial = s.initial := by
  cases ho with
  | newest _ _ _ => exact absurd rfl (hx _)
  | latestIdle _ hd => exact ⟨hd, rfl, rfl, rfl⟩
  | initial _ _ => exact absurd rfl (hx _)
  | overrun _ _ _ _ _ => exact absurd rfl (hx _)
  | following _ _ _ _ => exact absurd rfl (hx _)
  | everyIdle _ _ hd => exact ⟨hd, rfl, rfl, rfl⟩

/-- A subscription as a reader of the channels of its topic. -/
def reader (s : Subscription) : Reader where
  initial := s.initial
  position := s.taken
  delivered := s.delivered

theorem Outcome.read (ho : Outcome s retained t x s') (h : s.Placed t) :
    s.reader.read s.policy (.ofUpdates retained t.updates s.closed.isSome) = (x, s'.reader) := by
  have hlength := t.length_updates
  have hcounted := t.counted_updates
  cases ho with
  | newest hp hu hlt =>
    rw [hp]
    exact Reader.readNewest_of_lt (t.getLast?_updates.trans hu) hlt
  | latestIdle hp hd =>
    rw [hp]
    exact Reader.readNewest_of_done hcounted (hd.trans hlength.symm)
  | @initial u hp hi =>
    obtain ⟨hu, -, hd⟩ := h.initial hp _ hi
    have hnew : s.reader.newer (some u) = some u :=
      Reader.newer_of_lt (by
        show s.delivered < u.version
        rw [hd]
        exact (Topic.version_of_update? hu).2.1)
    rw [hp]
    show Reader.readEvery _ _ = _
    rw [Reader.readEvery, show s.reader.initial = some u from hi]
    simp only [hnew]
    rfl
  | overrun hp hi hover hu hlt =>
    rw [hp]
    show Reader.readEvery _ _ = _
    rw [Reader.readEvery, show s.reader.initial = none from hi]
    rw [← hlength] at hover ⊢
    exact Reader.readRing_of_overrun hover (t.getLast?_updates.trans hu) hlt
  | following hp hi hroom hu =>
    rw [hp]
    show Reader.readEvery _ _ = _
    rw [Reader.readEvery, show s.reader.initial = none from hi]
    rw [← hlength] at hroom
    exact Reader.readRing_of_room hcounted hroom (h.taken_le hp hi)
      ((t.getElem?_updates _).trans hu)
  | everyIdle hp hi hd =>
    rw [hp]
    show Reader.readEvery _ _ = _
    rw [Reader.readEvery, show s.reader.initial = none from hi]
    rw [← hlength] at hd ⊢
    exact Reader.readRing_of_done hcounted ((h.taken_le hp hi).trans hd.le) hd

/-- What a subscription answers is what it reads from the channels of its topic. -/
theorem next_eq_read (h : s.Placed t) (retained : Nat) :
    ((s.next retained t).1, (s.next retained t).2.reader) =
      s.reader.read s.policy (.ofUpdates retained t.updates s.closed.isSome) :=
  ((outcome_next h retained).read h).symm

end Subscription

end RelayFleet
