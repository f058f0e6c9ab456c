/-
A connection among others, in every order in which calls of others, the forwarding of what is next
and the frames of the peer come to pass. Whatever the order is, and whichever frames get through, the
connection relays what was taken from its subscription: the texts that it sends read, in order, as
the updates taken, and the frame that closes it is sent exactly if the topic was found to have ended
before anything else ended the connection (`relays_afterAll`). What the peer sends without ending the
connection makes no difference (`quiet_afterAll_filter`).
-/
import RelayFleet.Distribution.Forwarder
import RelayFleet.Proofs.Distribution.View
import RelayFleet.Proofs.Document.Wire

namespace RelayFleet

/-! ## Frames -/

theorem ConfigUpdate.ofText?_toText_of_lt {u : ConfigUpdate} (h : u.version < 2 ^ 64) :
    ofText? u.toText = some u := by
  have hversion : (UInt64.ofNat u.version).toNat = u.version := UInt64.toNat_ofNat_of_lt h
  have hread := ofText?_toText (UInt64.ofNat u.version) u.config
  rwa [hversion] at hread

/-- The update that a frame is about. -/
def ServerFrame.update? : ServerFrame → Option ConfigUpdate
  | text u => some u
  | pong _ => none
  | close => none

/-- The text of a frame. -/
def ServerFrame.text? (frame : ServerFrame) : Option String := frame.update?.map (·.toText)

/-- Whether a frame only answers a ping. -/
def ServerFrame.isPong : ServerFrame → Bool
  | text _ => false
  | pong _ => true
  | close => false

/-- Whether the peer ends a connection with a frame, as it does if it breaks the rules. -/
def PeerFrame.ends : PeerFrame → Bool
  | text _ => false
  | binary _ => false
  | ping payload => Connection.maxPing < payload.utf8ByteSize
  | pong payload => Connection.maxPing < payload.utf8ByteSize
  | close => true
  | gone => true

namespace Connection

/-- The updates that were sent. -/
def updates (c : Connection) : List ConfigUpdate := c.sent.filterMap (·.update?)

variable {c : Connection} {d : Distributor}

theorem texts_eq (c : Connection) :
    c.sent.filterMap (·.text?) = c.updates.map (·.toText) :=
  List.map_filterMap.symm

/-- The texts that were sent read as what they are about. -/
theorem map_ofText?_texts (c : Connection) (h : ∀ u ∈ c.updates, u.version < 2 ^ 64) :
    (c.sent.filterMap (·.text?)).map ConfigUpdate.ofText? = c.updates.map some := by
  rw [c.texts_eq, List.map_map]
  refine List.map_congr_left fun u hu => ?_
  rw [Function.comp_apply]
  exact ConfigUpdate.ofText?_toText_of_lt (h u hu)

theorem receive_of_ends {frame : PeerFrame} (hrunning : c.running = true) (h : frame.ends = true) :
    c.receive d frame = c.stop d := by
  unfold receive
  rw [if_pos hrunning]
  cases frame with
  | text | binary => cases h
  | ping => exact if_neg (Nat.not_le.2 (of_decide_eq_true h))
  | pong => exact if_neg (Nat.not_le.2 (of_decide_eq_true h))
  | close | gone => rfl

/-- Otherwise a frame is answered, at the most. -/
theorem receive_of_not_ends {frame : PeerFrame} (h : frame.ends = false) :
    ∃ pongs : List String, c.receive d frame =
      ({ c with sent := c.sent ++ pongs.map .pong }, d) := by
  have hnothing : (c, d) = ({ c with sent := c.sent ++ ([] : List String).map .pong }, d) := by
    rw [List.map_nil, List.append_nil]
  unfold receive
  split
  · cases frame with
    | text | binary => exact ⟨[], hnothing⟩
    | ping payload =>
      exact ⟨[payload], if_pos (Nat.not_lt.1 (of_decide_eq_false h))⟩
    | pong =>
      exact ⟨[], (if_pos (Nat.not_lt.1 (of_decide_eq_false h))).trans hnothing⟩
    | close | gone => cases h
  · exact ⟨[], hnothing⟩

theorem stopped (hstopped : c.running = false) (through : Bool) (frame : PeerFrame) :
    c.forward d through = (c, d, false) ∧ c.receive d frame = (c, d) := by
  unfold forward receive
  rw [if_neg (Bool.eq_false_iff.1 hstopped), if_neg (Bool.eq_false_iff.1 hstopped)]
  exact ⟨rfl, rfl⟩

/-- A connection without the answers to pings that it sent. -/
def quiet (c : Connection) : Connection := { c with sent := c.sent.filter (! ·.isPong) }

theorem quiet_send {frame : ServerFrame} (h : frame.isPong = false) :
    (c.send frame).quiet = c.quiet.send frame := by
  unfold quiet send
  rw [List.filter_append, List.filter_singleton, h]
  rfl

theorem quiet_quiet : c.quiet.quiet = c.quiet := by
  unfold quiet
  rw [List.filter_filter]
  simp only [Bool.and_self]

theorem quiet_of_not_ends {frame : PeerFrame} (h : frame.ends = false) :
    (c.receive d frame).1.quiet = c.quiet ∧ (c.receive d frame).2 = d := by
  obtain ⟨pongs, hreceive⟩ := receive_of_not_ends (c := c) (d := d) h
  rw [hreceive]
  refine ⟨?_, rfl⟩
  have hpongs : (pongs.map ServerFrame.pong).filter (! ·.isPong) = [] := by
    refine List.filter_eq_nil_iff.2 fun frame hframe => ?_
    obtain ⟨pong, -, rfl⟩ := List.mem_map.1 hframe
    exact Bool.false_ne_true
  unfold quiet
  dsimp only
  rw [List.filter_append, hpongs, List.append_nil]

section

variable (hrunning : c.running = true) (through : Bool) {d' : Distributor}

include hrunning

theorem forward_update {u : ConfigUpdate} (h : d.next c.subscription = (.update u, d')) :
    c.forward d through =
      if through then (c.send (.text u), d', true)
      else ({ c with running := false }, d'.unsubscribe c.subscription, false) := by
  unfold forward
  rw [if_pos hrunning, h]
  rfl

theorem forward_pending (h : d.next c.subscription = (.pending, d')) :
    c.forward d through = (c, d', false) := by
  unfold forward
  rw [if_pos hrunning, h]

theorem forward_ended (h : d.next c.subscription = (.ended, d')) :
    c.forward d through = ({ (if through then c.send .close else c) with running := false },
      d'.unsubscribe c.subscription, false) := by
  unfold forward
  rw [if_pos hrunning, h]
  cases through <;> rfl

end

/-- What is forwarded does not depend on what was answered. -/
theorem quiet_forward (c : Connection) (d : Distributor) (through : Bool) :
    (c.forward d through).1.quiet = (c.quiet.forward d through).1 ∧
      (c.forward d through).2 = (c.quiet.forward d through).2 := by
  cases hrunning : c.running with
  | false =>
    rw [(stopped hrunning through .gone).1, (stopped (c := c.quiet) hrunning through .gone).1]
    exact ⟨rfl, rfl⟩
  | true =>
    rcases hnext : d.next c.subscription with ⟨_ | _ | _, d'⟩
    · rw [forward_update hrunning through hnext, forward_update (c := c.quiet) hrunning through hnext]
      cases through with
      | true => exact ⟨quiet_send rfl, rfl⟩
      | false => exact ⟨rfl, rfl⟩
    · rw [forward_pending hrunning through hnext,
        forward_pending (c := c.quiet) hrunning through hnext]
      exact ⟨rfl, rfl⟩
    · rw [forward_ended hrunning through hnext, forward_ended (c := c.quiet) hrunning through hnext]
      cases through with
      | true =>
        exact ⟨congrArg (fun c : Connection => { c with running := false }) (quiet_send rfl), rfl⟩
      | false => exact ⟨rfl, rfl⟩

/-- Nor does what ends a connection. -/
theorem quiet_receive (c : Connection) (d : Distributor) (frame : PeerFrame) :
    (c.receive d frame).1.quiet = (c.quiet.receive d frame).1.quiet ∧
      (c.receive d frame).2 = (c.quiet.receive d frame).2 := by
  cases hends : frame.ends with
  | true =>
    cases hrunning : c.running with
    | false =>
      rw [(stopped hrunning true frame).2, (stopped (c := c.quiet) hrunning true frame).2]
      exact ⟨quiet_quiet.symm, rfl⟩
    | true =>
      rw [receive_of_ends hrunning hends, receive_of_ends (c := c.quiet) hrunning hends]
      exact ⟨congrArg (fun c : Connection => { c with running := false }) quiet_quiet.symm, rfl⟩
  | false =>
    obtain ⟨hquiet, hd⟩ := quiet_of_not_ends (c := c) (d := d) hends
    obtain ⟨hquiet', hd'⟩ := quiet_of_not_ends (c := c.quiet) (d := d) hends
    exact ⟨hquiet.trans (hquiet'.trans quiet_quiet).symm, hd.trans hd'.symm⟩

end Connection

/-! ## What comes to pass -/

/-- How a connection ended. -/
inductive WatchEnding where
  /-- The topic was found to have ended; the last frame got through or did not. -/
  | topic (through : Bool)
  /-- An update did not get through. -/
  | unsent (u : ConfigUpdate)
  /-- The peer ended it. -/
  | peer
deriving DecidableEq

/-- What may come to pass. -/
inductive WatchTurn where
  /-- Somebody calls the distributor. -/
  | call (c : DistributorCall)
  /-- What is next on the subscription is forwarded, if there is something, and if it gets through. -/
  | forward (through : Bool)
  /-- A frame comes from the peer. -/
  | receive (frame : PeerFrame)

/-- Whether a turn is a frame that the peer does not end the connection with. -/
def WatchTurn.isNoise : WatchTurn → Bool
  | call _ => false
  | forward _ => false
  | receive frame => ! frame.ends

/-- Whether a turn cannot end a connection but for the end of the topic. -/
def WatchTurn.isGentle : WatchTurn → Bool
  | call _ => true
  | forward through => through
  | receive frame => ! frame.ends

/-- Whether what is next is forwarded. -/
def WatchTurn.isForward : WatchTurn → Bool
  | call _ => false
  | forward _ => true
  | receive _ => false

/-- A connection with its distributor. -/
structure Watch where
  connection : Connection
  distributor : Distributor
  /-- The subscription, as it was when the connection held it last. -/
  view : Viewing
  /-- What ended the connection first. -/
  ending : Option WatchEnding := none

namespace Watch

/-- A connection over which a key is watched, made after some calls to a new distributor. -/
def opened (buffer : Nat) (past : List DistributorCall) (key : ObjectKey) (policy : DeliveryPolicy) :
    Watch where
  connection := (Connection.connect (Chronicle.ofCalls buffer key past).distributor key policy).1
  distributor := (Connection.connect (Chronicle.ofCalls buffer key past).distributor key policy).2
  view := .ofCalls buffer past key policy []

/-- How the connection ends if what is next is forwarded. -/
def end? (w : Watch) (through : Bool) : Option WatchEnding :=
  match w.view.next with
  | .update u => if through then none else some (.unsent u)
  | .pending => none
  | .ended => some (.topic through)

/-- The subscription after a call, for as long as the connection holds it. -/
def viewAfter (w : Watch) (c : DistributorCall) : Viewing :=
  if w.ending = none then w.view.after c else w.view

/-- A connection once somebody else has called the distributor. Nobody else asks for what is next on
its subscription, or drops it. -/
def called (w : Watch) (c : DistributorCall) : Watch :=
  if c = .next w.view.number ∨ c = .leave w.view.number then w
  else { w with distributor := w.distributor.called c, view := w.viewAfter c }

/-- A connection once what is next was forwarded. -/
def forwarded (w : Watch) (through : Bool) : Watch where
  connection := (w.connection.forward w.distributor through).1
  distributor := (w.connection.forward w.distributor through).2.1
  view := w.viewAfter (.next w.view.number)
  ending := w.ending.or (w.end? through)

/-- A connection once a frame came from the peer. -/
def received (w : Watch) (frame : PeerFrame) : Watch where
  connection := (w.connection.receive w.distributor frame).1
  distributor := (w.connection.receive w.distributor frame).2
  view := w.view
  ending := w.ending.or (if frame.ends then some .peer else none)

/-- A connection after a turn. -/
def after (w : Watch) : WatchTurn → Watch
  | .call c => w.called c
  | .forward through => w.forwarded through
  | .receive frame => w.received frame

/-- A connection after turns, one after the other. -/
def afterAll (w : Watch) (turns : List WatchTurn) : Watch := turns.foldl after w

/-- The update that did not get through. -/
def unsent? (w : Watch) : Option ConfigUpdate :=
  match w.ending with
  | some (.unsent u) => some u
  | _ => none

/-! ## What a connection keeps to -/

/-- What is known of a connection at any time. -/
structure Kept (w : Watch) : Prop where
  held : w.view.Held
  subscription : w.connection.subscription = w.view.number
  running : w.connection.running = w.ending.isNone
  distributor : w.ending = none → w.distributor = w.view.distributor
  taken : w.view.given = w.connection.updates ++ w.unsent?.toList
  closing : .close ∈ w.connection.sent → w.ending = some (.topic true)
  last : w.ending = some (.topic true) →
    ∃ frames, w.connection.sent = frames ++ [.close] ∧ .close ∉ frames
  complete : ∀ through, w.ending = some (.topic through) →
    w.view.closed = true ∧ w.view.given.getLast? = w.view.topic.getLast?

variable {w : Watch} {through : Bool} {frame : PeerFrame} {c : DistributorCall}

theorem kept_opened (buffer : Nat) (past : List DistributorCall) (key : ObjectKey)
    (policy : DeliveryPolicy) : (opened buffer past key policy).Kept where
  held := Viewing.held_ofCalls (by simp)
  subscription := rfl
  running := rfl
  distributor _ := rfl
  taken := rfl
  closing h := by cases h
  last h := by cases h
  complete _ h := by cases h

theorem viewAfter_of_over (h : w.ending ≠ none) (c : DistributorCall) : w.viewAfter c = w.view :=
  if_neg h

theorem viewAfter_of_open (h : w.ending = none) (c : DistributorCall) :
    w.viewAfter c = w.view.after c :=
  if_pos h

/-- A connection that is over stays as it is. -/
theorem after_of_over (h : w.Kept) (hover : w.ending ≠ none) (e : WatchTurn) :
    (w.after e).connection = w.connection ∧ (w.after e).view = w.view ∧
      (w.after e).ending = w.ending := by
  obtain ⟨ending, hending⟩ := Option.ne_none_iff_exists'.1 hover
  have hstopped : w.connection.running = false := by
    rw [h.running, hending]
    rfl
  cases e with
  | call c =>
    show (w.called c).connection = _ ∧ (w.called c).view = _ ∧ (w.called c).ending = _
    unfold called
    split
    · exact ⟨rfl, rfl, rfl⟩
    · exact ⟨rfl, viewAfter_of_over hover c, rfl⟩
  | forward through =>
    refine ⟨?_, viewAfter_of_over hover _, ?_⟩
    · exact congrArg Prod.fst (Connection.stopped hstopped through .gone).1
    · show w.ending.or _ = w.ending
      rw [hending, Option.some_or]
  | receive frame =>
    refine ⟨?_, rfl, ?_⟩
    · exact congrArg Prod.fst (Connection.stopped hstopped true frame).2
    · show w.ending.or _ = w.ending
      rw [hending, Option.some_or]

theorem Kept.of_over {w' : Watch} (h : w.Kept) (hconnection : w'.connection = w.connection)
    (hview : w'.view = w.view) (hending : w'.ending = w.ending) (hover : w.ending ≠ none) :
    w'.Kept := by
  obtain ⟨connection, distributor, view, ending⟩ := w
  obtain ⟨connection', distributor', view', ending'⟩ := w'
  cases hconnection
  cases hview
  cases hending
  exact ⟨h.held, h.subscription, h.running, fun hnone => absurd hnone hover, h.taken, h.closing,
    h.last, h.complete⟩

/-! ### One turn at a time -/

section

variable (h : w.Kept) (hopen : w.ending = none)

include h hopen

theorem Kept.called (c : DistributorCall) : (w.called c).Kept := by
  unfold Watch.called
  split
  · exact h
  · rename_i hother
    rw [not_or] at hother
    rw [viewAfter_of_open hopen]
    have hgiven : (w.view.after c).given = w.view.given := Viewing.given_after_of_ne hother.1
    refine ⟨h.held.after hother.2, h.subscription, h.running, fun _ => ?_, hgiven.trans h.taken,
      h.closing, h.last, fun through hending => ?_⟩
    · exact congrArg (·.called c) (h.distributor hopen)
    · cases hopen.symm.trans hending

theorem Kept.received (frame : PeerFrame) : (w.received frame).Kept := by
  have hrunning : w.connection.running = true := by
    rw [h.running, hopen]
    rfl
  cases hends : frame.ends with
  | true =>
    have hstop : w.received frame = { w with
        connection := { w.connection with running := false }
        distributor := w.distributor.unsubscribe w.connection.subscription
        ending := some .peer } := by
      unfold Watch.received
      rw [Connection.receive_of_ends hrunning hends, hopen, if_pos hends]
      rfl
    have htaken : w.unsent? = none := by rw [unsent?, hopen]
    rw [hstop]
    refine ⟨h.held, h.subscription, rfl, by rintro ⟨⟩, ?_, fun hclose => ?_, by rintro ⟨⟩,
      by rintro _ ⟨⟩⟩
    · exact h.taken.trans (by rw [htaken]; rfl)
    · cases hopen.symm.trans (h.closing hclose)
  | false =>
    obtain ⟨pongs, hreceive⟩ := Connection.receive_of_not_ends (c := w.connection)
      (d := w.distributor) hends
    have hanswer : w.received frame = { w with connection :=
        { w.connection with sent := w.connection.sent ++ pongs.map .pong } } := by
      unfold Watch.received
      rw [hreceive, hends, hopen]
      rfl
    have hupdates : (pongs.map ServerFrame.pong).filterMap (·.update?) = [] := by
      rw [List.filterMap_map]
      exact List.filterMap_eq_nil_iff.2 fun _ _ => rfl
    rw [hanswer]
    refine ⟨h.held, h.subscription, h.running, h.distributor, ?_, fun hclose => ?_, fun hending => ?_,
      fun through hending => ?_⟩
    · show w.view.given = (w.connection.sent ++ _).filterMap _ ++ w.unsent?.toList
      rw [List.filterMap_append, hupdates, List.append_nil]
      exact h.taken
    · rcases List.mem_append.1 hclose with hclose | hpong
      · exact h.closing hclose
      · simp at hpong
    · cases hopen.symm.trans hending
    · cases hopen.symm.trans hending

theorem next_eq : w.distributor.next w.connection.subscription =
    (w.view.next, (w.view.after (.next w.view.number)).distributor) := by
  rw [h.distributor hopen, h.subscription]
  rfl

theorem running_eq_true : w.connection.running = true := by
  rw [h.running, hopen]
  rfl

theorem given_eq : w.view.given = w.connection.updates := by
  rw [h.taken, unsent?, hopen]
  exact List.append_nil _

theorem not_closed_of_open : .close ∉ w.connection.sent := by
  intro hclose
  cases hopen.symm.trans (h.closing hclose)

/-- An update is taken, and sent if it gets through. -/
theorem Kept.forwarded_update {u : ConfigUpdate} (hx : w.view.next = .update u) (through : Bool) :
    (w.forwarded through).Kept := by
  have hheld := h.held.after (c := .next w.view.number) (by simp)
  have hgiven := (Viewing.given_after_update hx).trans (congrArg (· ++ [u]) (given_eq h hopen))
  have hrunning := running_eq_true h hopen
  have hnot := not_closed_of_open h hopen
  have hforward := Connection.forward_update hrunning through
    ((next_eq h hopen).trans (by rw [hx]))
  unfold Watch.forwarded
  rw [hforward, viewAfter_of_open hopen, hopen, Option.none_or, end?, hx]
  dsimp only
  cases through with
  | true =>
    refine ⟨hheld, h.subscription, hrunning, fun _ => rfl, ?_, fun hclose => ?_,
      by rintro ⟨⟩, by rintro _ ⟨⟩⟩
    · show _ = (w.connection.sent ++ [ServerFrame.text u]).filterMap _ ++ []
      rw [List.filterMap_append, List.append_nil]
      exact hgiven
    · refine absurd ?_ hnot
      simpa [Connection.send] using hclose
  | false =>
    exact ⟨hheld, h.subscription, rfl, by rintro ⟨⟩, hgiven,
      fun hclose => absurd hclose hnot, by rintro ⟨⟩, by rintro _ ⟨⟩⟩

/-- There is nothing to take yet, and the connection waits. -/
theorem Kept.forwarded_pending (hx : w.view.next = .pending) (through : Bool) :
    (w.forwarded through).Kept := by
  have hheld := h.held.after (c := .next w.view.number) (by simp)
  have hgiven := Viewing.given_after_done (v := w.view) (by rw [hx]; rintro _ ⟨⟩)
  have hrunning := running_eq_true h hopen
  have hnot := not_closed_of_open h hopen
  have hforward := Connection.forward_pending hrunning through
    ((next_eq h hopen).trans (by rw [hx]))
  unfold Watch.forwarded
  rw [hforward, viewAfter_of_open hopen, hopen, Option.none_or, end?, hx]
  exact ⟨hheld, h.subscription, hrunning, fun _ => rfl,
    (hgiven.trans (given_eq h hopen)).trans (List.append_nil _).symm,
    fun hclose => absurd hclose hnot, by rintro ⟨⟩, by rintro _ ⟨⟩⟩

/-- The topic has ended, and so does the connection. -/
theorem Kept.forwarded_ended (hx : w.view.next = .ended) (through : Bool) :
    (w.forwarded through).Kept := by
  have hheld := h.held.after (c := .next w.view.number) (by simp)
  have hgiven := Viewing.given_after_done (v := w.view) (by rw [hx]; rintro _ ⟨⟩)
  have hrunning := running_eq_true h hopen
  have hnot := not_closed_of_open h hopen
  have hforward := Connection.forward_ended hrunning through
    ((next_eq h hopen).trans (by rw [hx]))
  obtain ⟨hclosed, hcomplete⟩ := h.held.faithful.ended.1 hx
  have hends : (w.view.after (.next w.view.number)).closed = true ∧
      (w.view.after (.next w.view.number)).given.getLast? =
        (w.view.after (.next w.view.number)).topic.getLast? := by
    refine ⟨?_, ?_⟩
    · show (w.view.closed || _) = true
      rw [hclosed, Bool.true_or]
    · rw [hgiven, Viewing.topic_after_next, hcomplete]
  unfold Watch.forwarded
  rw [hforward, viewAfter_of_open hopen, hopen, Option.none_or, end?, hx]
  dsimp only
  cases through with
  | true =>
    refine ⟨hheld, h.subscription, rfl, by rintro ⟨⟩, ?_, fun _ => rfl,
      fun _ => ⟨_, rfl, hnot⟩, fun _ _ => hends⟩
    show _ = (w.connection.sent ++ [ServerFrame.close]).filterMap _ ++ []
    rw [List.filterMap_append, List.append_nil, hgiven, given_eq h hopen]
    exact (List.append_nil _).symm
  | false =>
    exact ⟨hheld, h.subscription, rfl, by rintro ⟨⟩,
      (hgiven.trans (given_eq h hopen)).trans (List.append_nil _).symm,
      fun hclose => absurd hclose hnot, by rintro ⟨⟩, fun _ _ => hends⟩

theorem Kept.forwarded (through : Bool) : (w.forwarded through).Kept := by
  cases hx : w.view.next with
  | update u => exact h.forwarded_update hopen hx through
  | pending => exact h.forwarded_pending hopen hx through
  | ended => exact h.forwarded_ended hopen hx through

end

theorem Kept.after (h : w.Kept) (e : WatchTurn) : (w.after e).Kept := by
  by_cases hopen : w.ending = none
  · cases e with
    | call c => exact h.called hopen c
    | forward through => exact h.forwarded hopen through
    | receive frame => exact h.received hopen frame
  · obtain ⟨hconnection, hview, hending⟩ := after_of_over h hopen e
    exact h.of_over hconnection hview hending hopen

theorem kept_afterAll (h : w.Kept) (turns : List WatchTurn) : (w.afterAll turns).Kept := by
  induction turns generalizing w with
  | nil => exact h
  | cons e turns ih => exact ih (h.after e)

theorem afterAll_of_over (h : w.Kept) (hover : w.ending ≠ none) (turns : List WatchTurn) :
    (w.afterAll turns).connection = w.connection ∧ (w.afterAll turns).view = w.view ∧
      (w.afterAll turns).ending = w.ending := by
  induction turns generalizing w with
  | nil => exact ⟨rfl, rfl, rfl⟩
  | cons e turns ih =>
    obtain ⟨hconnection, hview, hending⟩ := after_of_over h hover e
    obtain ⟨hconnection', hview', hending'⟩ := ih (h.after e) (hending ▸ hover)
    exact ⟨hconnection'.trans hconnection, hview'.trans hview, hending'.trans hending⟩

/-! ### Frames that make no difference -/

/-- A connection without the answers to pings that it sent. -/
def quiet (w : Watch) : Watch := { w with connection := w.connection.quiet }

/-- A frame of the peer that does not end the connection is answered, at the most. -/
theorem quiet_received (hends : frame.ends = false) : (w.received frame).quiet = w.quiet := by
  obtain ⟨hquiet, hd⟩ := Connection.quiet_of_not_ends (c := w.connection) (d := w.distributor) hends
  unfold quiet received
  dsimp only
  rw [hquiet, hd, hends, if_neg Bool.false_ne_true, Option.or_none]

theorem quiet_quiet (w : Watch) : w.quiet.quiet = w.quiet :=
  congrArg (fun c => { w with connection := c }) Connection.quiet_quiet

theorem quiet_after (w : Watch) (e : WatchTurn) : (w.after e).quiet = (w.quiet.after e).quiet := by
  cases e with
  | call c =>
    show (if c = .next w.view.number ∨ c = .leave w.view.number then w else _ : Watch).quiet =
      (if c = .next w.view.number ∨ c = .leave w.view.number then w.quiet else _ : Watch).quiet
    split
    · exact w.quiet_quiet.symm
    · exact (quiet_quiet { w with
        distributor := w.distributor.called c
        view := w.viewAfter c }).symm
  | forward through =>
    obtain ⟨hquiet, hd⟩ := w.connection.quiet_forward w.distributor through
    show (w.forwarded through).quiet = (w.quiet.forwarded through).quiet
    unfold quiet forwarded
    dsimp only
    rw [hd, ← hquiet, Connection.quiet_quiet]
    rfl
  | receive frame =>
    obtain ⟨hquiet, hd⟩ := w.connection.quiet_receive w.distributor frame
    show (w.received frame).quiet = (w.quiet.received frame).quiet
    unfold quiet received
    dsimp only
    rw [hd, hquiet]

theorem quiet_afterAll (w : Watch) (turns : List WatchTurn) :
    (w.afterAll turns).quiet = (w.quiet.afterAll turns).quiet := by
  induction turns generalizing w with
  | nil => exact w.quiet_quiet.symm
  | cons e turns ih =>
    calc ((w.after e).afterAll turns).quiet
      _ = ((w.after e).quiet.afterAll turns).quiet := ih _
      _ = ((w.quiet.after e).quiet.afterAll turns).quiet := by rw [quiet_after]
      _ = ((w.quiet.after e).afterAll turns).quiet := (ih _).symm

theorem quiet_afterAll_filter (w : Watch) (turns : List WatchTurn) :
    (w.afterAll turns).quiet = (w.afterAll (turns.filter (! ·.isNoise))).quiet := by
  induction turns generalizing w with
  | nil => rfl
  | cons e turns ih =>
    cases hnoise : e.isNoise with
    | true =>
      have hsame : (w.after e).quiet = w.quiet := by
        cases e with
        | call | forward => cases hnoise
        | receive frame =>
          have hends : frame.ends = false := by simpa [WatchTurn.isNoise] using hnoise
          exact quiet_received hends
      rw [List.filter_cons_of_neg (by simp [hnoise])]
      calc ((w.after e).afterAll turns).quiet
        _ = ((w.after e).afterAll (turns.filter (! ·.isNoise))).quiet := ih _
        _ = ((w.after e).quiet.afterAll (turns.filter (! ·.isNoise))).quiet := quiet_afterAll ..
        _ = (w.quiet.afterAll (turns.filter (! ·.isNoise))).quiet := by rw [hsame]
        _ = (w.afterAll (turns.filter (! ·.isNoise))).quiet := (quiet_afterAll ..).symm
    | false =>
      rw [List.filter_cons_of_pos (by simp [hnoise])]
      exact ih _

/-! ### The end of the topic -/

theorem viewAfter_of_closed (hclosed : w.view.closed = true) (c : DistributorCall) :
    (w.viewAfter c).closed = true ∧ (w.viewAfter c).topic = w.view.topic := by
  unfold viewAfter
  split
  · exact Viewing.closed_afterAll hclosed [c]
  · exact ⟨hclosed, rfl⟩

/-- What was taken is no more than the topic has. -/
theorem Kept.length_given_le (h : w.Kept) : w.view.given.length ≤ w.view.topic.length := by
  have hnodup : w.view.given.Nodup :=
    h.held.faithful.ascending.imp fun hlt => by
      rintro rfl
      exact lt_irrefl _ hlt
  exact (List.subperm_of_subset hnodup h.held.faithful.mem).length_le

/-- Once the topic was removed, what is forwarded is one of the updates that are left, or the end. -/
theorem Kept.after_of_closed (h : w.Kept) (hopen : w.ending = none) (hclosed : w.view.closed = true)
    {e : WatchTurn} (hgentle : e.isGentle = true) :
    (w.after e).ending = some (.topic true) ∨
      (w.after e).ending = none ∧ (w.after e).view.closed = true ∧
        (w.after e).view.topic = w.view.topic ∧
        (w.after e).view.given.length = w.view.given.length + if e.isForward then 1 else 0 := by
  cases e with
  | call c =>
    right
    show (w.called c).ending = none ∧ (w.called c).view.closed = true ∧
      (w.called c).view.topic = _ ∧ (w.called c).view.given.length = w.view.given.length
    unfold Watch.called
    split
    · exact ⟨hopen, hclosed, rfl, rfl⟩
    · rename_i hother
      rw [not_or] at hother
      obtain ⟨hclosed', htopic⟩ := viewAfter_of_closed hclosed c
      refine ⟨hopen, hclosed', htopic, ?_⟩
      rw [viewAfter_of_open hopen, Viewing.given_after_of_ne hother.1]
  | forward through =>
    obtain rfl : through = true := hgentle
    obtain ⟨hclosed', htopic⟩ := viewAfter_of_closed hclosed (.next w.view.number)
    have hending : (w.forwarded true).ending = w.end? true := by
      show w.ending.or _ = _
      rw [hopen, Option.none_or]
    cases hx : w.view.next with
    | update u =>
      refine .inr ⟨hending.trans (by rw [end?, hx]; rfl), hclosed', htopic, ?_⟩
      show (w.viewAfter _).given.length = _
      rw [viewAfter_of_open hopen, Viewing.given_after_update hx, List.length_append]
      rfl
    | pending => cases hclosed.symm.trans (h.held.faithful.pending.1 hx).1
    | ended => exact .inl (hending.trans (by rw [end?, hx]))
  | receive frame =>
    have hends : frame.ends = false := Bool.not_eq_eq_eq_not.1 hgentle
    refine .inr ⟨?_, hclosed, rfl, rfl⟩
    show w.ending.or (if frame.ends then _ else none) = none
    rw [hopen, hends]
    rfl

/-- Once the topic was removed, a connection that is let alone is closed for the peer. -/
theorem Kept.close_mem (h : w.Kept) (hopen : w.ending = none) (hclosed : w.view.closed = true)
    {more : List WatchTurn} (hgentle : ∀ e ∈ more, e.isGentle = true)
    (hcount : w.view.topic.length < w.view.given.length + more.countP (·.isForward)) :
    .close ∈ (w.afterAll more).connection.sent := by
  induction more generalizing w with
  | nil => exact absurd h.length_given_le (Nat.not_le.2 hcount)
  | cons e more ih =>
    obtain ⟨he, hmore⟩ := List.forall_mem_cons.1 hgentle
    show .close ∈ ((w.after e).afterAll more).connection.sent
    rcases h.after_of_closed hopen hclosed he with hover | ⟨hopen', hclosed', htopic, hgiven⟩
    · rw [(afterAll_of_over (h.after e) (by rw [hover]; rintro ⟨⟩) more).1]
      obtain ⟨frames, hsent, -⟩ := (h.after e).last hover
      rw [hsent]
      exact List.mem_append_right _ (List.mem_singleton_self _)
    · refine ih (h.after e) hopen' hclosed' hmore ?_
      rw [List.countP_cons] at hcount
      rw [htopic, hgiven]
      omega

/-! ## Every order of turns -/

/-- Whether a connection relays its subscription as it is. -/
structure Relays (w : Watch) : Prop where
  /-- What was taken was sent, in order, but for an update that did not get through. -/
  taken : w.view.given = w.connection.updates ++ w.unsent?.toList
  /-- The texts that were sent read as what they are about. -/
  texts : (∀ u ∈ w.view.given, u.version < 2 ^ 64) →
    (w.connection.sent.filterMap (·.text?)).map ConfigUpdate.ofText? =
      w.connection.updates.map some
  ascending : w.view.given.Pairwise fun u v => u.version < v.version
  /-- The connection is closed for the peer if it was the end of the topic that ended it, and the frame
  got through. -/
  closing : .close ∈ w.connection.sent ↔ w.ending = some (.topic true)
  last : .close ∈ w.connection.sent →
    ∃ frames, w.connection.sent = frames ++ [.close] ∧ .close ∉ frames
  /-- A topic is found to have ended once it was removed and all of it was taken. -/
  complete : ∀ through, w.ending = some (.topic through) →
    w.view.closed = true ∧ w.view.given.getLast? = w.view.topic.getLast?
  /-- Once it was removed, it is found to have ended if nothing else ends the connection. -/
  farewell : w.ending = none → w.view.closed = true → ∀ more,
    (∀ e ∈ more, e.isGentle = true) →
    w.view.topic.length < w.view.given.length + more.countP (·.isForward) →
      .close ∈ (w.afterAll more).connection.sent
  /-- After the end nothing is sent any more. -/
  silent : w.ending ≠ none → ∀ more, (w.afterAll more).connection.sent = w.connection.sent
  /-- Nor once the peer has ended the connection. -/
  parting : ∀ frame more, frame.ends = true →
    ((w.after (.receive frame)).afterAll more).connection.sent = w.connection.sent

theorem Kept.parting (h : w.Kept) (hends : frame.ends = true) (more : List WatchTurn) :
    ((w.after (.receive frame)).afterAll more).connection.sent = w.connection.sent := by
  have hsent : (w.after (.receive frame)).connection.sent = w.connection.sent := by
    show (w.connection.receive w.distributor frame).1.sent = _
    cases hrunning : w.connection.running with
    | false => rw [(Connection.stopped hrunning true frame).2]
    | true => rw [Connection.receive_of_ends hrunning hends]; rfl
  have hover : (w.after (.receive frame)).ending ≠ none := by
    show w.ending.or (if frame.ends = true then some .peer else none) ≠ none
    rw [if_pos hends]
    cases w.ending <;> rintro ⟨⟩
  rw [(afterAll_of_over (h.after _) hover more).1, hsent]

theorem Kept.relays (h : w.Kept) : w.Relays where
  taken := h.taken
  texts hversions := w.connection.map_ofText?_texts fun u hu =>
    hversions u (h.taken ▸ List.mem_append_left _ hu)
  ascending := h.held.faithful.ascending
  closing := ⟨h.closing, fun hending => by
    obtain ⟨frames, hsent, -⟩ := h.last hending
    rw [hsent]
    exact List.mem_append_right _ (List.mem_singleton_self _)⟩
  last hclose := h.last (h.closing hclose)
  complete := h.complete
  farewell hopen hclosed _ hgentle hcount := h.close_mem hopen hclosed hgentle hcount
  silent hover more := by rw [(afterAll_of_over h hover more).1]
  parting _ more hends := h.parting hends more

/-- Whatever comes to pass, and in whatever order, a connection relays its subscription as it is, and
the frames of the peer that do not end it make no difference to what else it sends. -/
theorem relays_afterAll (buffer : Nat) (past : List DistributorCall) (key : ObjectKey)
    (policy : DeliveryPolicy) (turns : List WatchTurn) :
    ((opened buffer past key policy).afterAll turns).Relays ∧
      ((opened buffer past key policy).afterAll turns).quiet =
        ((opened buffer past key policy).afterAll (turns.filter (! ·.isNoise))).quiet :=
  ⟨(kept_afterAll (kept_opened buffer past key policy) turns).relays, quiet_afterAll_filter _ turns⟩

/-- A ping between two updates is answered, and the empty document is the last update before the
end. -/
example :
    ((opened 16 [] (.namespaced "a" "t1") .every).afterAll
      [.call (.publish (.namespaced "a" "t1") { clusters := [{ name := "a/r", type := .static }] }),
        .receive (.ping "x"), .forward true, .call (.remove (.namespaced "a" "t1")), .forward true,
        .receive (.text "y"), .forward true, .forward true]).connection.sent =
      [.pong "x", .text ⟨1, { clusters := [{ name := "a/r", type := .static }] }⟩,
        .text ⟨2, .empty⟩, .close] := by
  decide +kernel

end Watch

end RelayFleet
