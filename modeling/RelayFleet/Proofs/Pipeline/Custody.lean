/-
Where the newest snapshot is while a pipeline is at work. Three earlier snapshots tell how far it
has come: `seen` is what the renderer saw last, `taken` is what the operator has taken up, and
`handed` is that of which the operator has handed over the statuses. As long as one of them is not
the newest, something on its way will lead to a later one; once one of them is the newest, what was
done for it was done well, since whatever fails or is refused leads to a newer snapshot.
-/
import RelayFleet.Proofs.Operator.Round
import RelayFleet.Proofs.Pipeline.World

namespace RelayFleet

open Program

variable {settings : Settings}

theorem Snapshot.Precedes.squeeze {s t u : Snapshot} (h : s.Precedes t) (h' : t.Precedes u)
    (he : s = u) : t = u := by
  refine h'.eq ?_
  rcases h with rfl | h
  · rw [he]
  · rw [← he]
    omega

/-! ## The renderer -/

/-- What the renderer saw last, and why it will look again if that is not the newest. -/
structure Renderer.Watches (settings : Settings) (sc : Scene) (seen : Snapshot) (r : Renderer) :
    Prop where
  precedes : seen.Precedes sc.snapshot
  rendered : r.rendered = some seen.generation ∨ r.rendered = none ∧ seen = {}
  called : seen = sc.snapshot ∨ r.awake = true ∨ r.due = true ∨ sc.channel.pending ≠ [] ∨
    0 < sc.untold
  outgoing : ∀ sweep, r.outgoing = some sweep → sweep = .ofSnapshot settings seen
  room : sc.channel.closed = false ∧ 0 < sc.channel.capacity

namespace Renderer

variable {r : Renderer} {sc : Scene} {seen : Snapshot}

theorem Watches.follow (h : r.Watches settings sc seen) {c : Cluster}
    (hc : sc.snapshot.Precedes c.snapshot) : r.Watches settings (sc.follow c) seen where
  precedes := h.precedes.trans hc
  rendered := h.rendered
  called := by
    rcases hc with he | hlt
    · rcases h.called with hseen | hawake | hdue | hpending | huntold
      · exact .inl (hseen.trans he)
      · exact .inr (.inl hawake)
      · exact .inr (.inr (.inl hdue))
      · exact .inr (.inr (.inr (.inl hpending)))
      · exact .inr (.inr (.inr (.inr (Nat.add_pos_left huntold _))))
    · -- a newer snapshot is one more change to be told of
      refine .inr (.inr (.inr (.inr ?_)))
      show 0 < sc.untold + (c.snapshot.generation - sc.snapshot.generation)
      omega
  outgoing := h.outgoing
  room := h.room

theorem Watches.tell (h : r.Watches settings sc seen) (change : StoreChange) :
    r.Watches settings { sc with
      channel := sc.channel.offer change, untold := sc.untold - 1 } seen := by
  obtain ⟨hopen, hcapacity⟩ := h.room
  have hoffer := Trigger.offer_of_room hopen hcapacity change
  exact ⟨h.precedes, h.rendered, .inr (.inr (.inr (.inl hoffer.1))), h.outgoing, hoffer.2⟩

theorem Watches.woken (h : r.Watches settings sc seen) :
    r.woken.Watches settings { sc with channel := sc.channel.drain.2 } seen :=
  ⟨h.precedes, h.rendered, .inr (.inl rfl), h.outgoing, h.room⟩

theorem Watches.sent (h : r.Watches settings sc seen) :
    Watches settings sc seen { r with outgoing := none } :=
  ⟨h.precedes, h.rendered, h.called, by rintro _ ⟨⟩, h.room⟩

/-- A look at the newest snapshot finds that it was seen already, or leads to its rendering. -/
theorem Watches.look (h : r.Watches settings sc seen) :
    (r.look settings sc.snapshot).Watches settings sc sc.snapshot ∧
      ((r.look settings sc.snapshot).outgoing = r.outgoing ∧ seen = sc.snapshot ∨
        (r.look settings sc.snapshot).outgoing ≠ none) := by
  unfold Renderer.look
  split
  · rename_i hsame
    have hseen : seen = sc.snapshot := by
      rcases h.rendered with hrendered | ⟨hnone, -⟩
      · exact h.precedes.eq (Option.some.inj (hsame.symm.trans hrendered)).le
      · rw [hnone] at hsame
        cases hsame
    subst hseen
    exact ⟨⟨.inl rfl, h.rendered, .inl rfl, h.outgoing, h.room⟩, .inl ⟨rfl, rfl⟩⟩
  · refine ⟨⟨.inl rfl, .inl rfl, .inl rfl, ?_, h.room⟩, .inr (Option.some_ne_none _)⟩
    rintro sweep ⟨⟩
    rfl

/-- Without a reason to look again, the renderer has seen the newest snapshot. -/
theorem Watches.seen_eq (h : r.Watches settings sc seen) (hdue : r.due = false)
    (hawake : r.awake = false) (hsigns : sc.channel.pending = []) (htold : sc.untold = 0) :
    seen = sc.snapshot := by
  rcases h.called with hseen | hawake' | hdue' | hsigns' | huntold
  · exact hseen
  · exact absurd (hawake.symm.trans hawake') Bool.false_ne_true
  · exact absurd (hdue.symm.trans hdue') Bool.false_ne_true
  · exact absurd hsigns hsigns'
  · omega

end Renderer

/-! ## Sweeps on their way -/

/-- What the sweeps are that wait for the operator: renderings of earlier snapshots. The newest of
them shows what the renderer saw last, unless the operator has taken that up. -/
structure Queued (settings : Settings) (newest seen taken : Snapshot) (outgoing : Option Sweep)
    (sweeps : List Sweep) : Prop where
  rendered : ∀ sweep ∈ sweeps, ∃ t, t.Precedes newest ∧ sweep = .ofSnapshot settings t
  last : outgoing = none →
    sweeps = [] ∧ taken = seen ∨ sweeps.getLast? = some (.ofSnapshot settings seen)

namespace Queued

variable {newest seen taken : Snapshot} {outgoing : Option Sweep} {sweeps : List Sweep}

theorem later (h : Queued settings newest seen taken outgoing sweeps) {s : Snapshot}
    (hs : newest.Precedes s) : Queued settings s seen taken outgoing sweeps where
  rendered sweep hsweep := by
    obtain ⟨t, ht, he⟩ := h.rendered sweep hsweep
    exact ⟨t, ht.trans hs, he⟩
  last := h.last

theorem send (h : Queued settings newest seen taken outgoing sweeps)
    (hseen : seen.Precedes newest) :
    Queued settings newest seen taken none (sweeps ++ [.ofSnapshot settings seen]) where
  rendered sweep hsweep := by
    rcases List.mem_append.1 hsweep with hsweep | hsweep
    · exact h.rendered sweep hsweep
    · exact ⟨seen, hseen, List.mem_singleton.1 hsweep⟩
  last _ := .inr List.getLast?_concat

/-- The operator takes up the newest sweep. -/
theorem take (h : Queued settings newest seen taken outgoing sweeps)
    (hseen : seen.Precedes newest) {sweep : Sweep} (hlast : sweeps.getLast? = some sweep) :
    ∃ t, t.Precedes newest ∧ sweep = .ofSnapshot settings t ∧
      Queued settings newest seen t outgoing [] := by
  have hmem := List.mem_of_getLast? hlast
  rcases outgoing with - | out
  · rcases h.last rfl with ⟨hnil, -⟩ | hseen'
    · rw [hnil] at hmem
      cases hmem
    · exact ⟨seen, hseen, Option.some.inj (hlast.symm.trans hseen'), by rintro _ ⟨⟩,
        fun _ => .inl ⟨rfl, rfl⟩⟩
  · obtain ⟨t, ht, he⟩ := h.rendered sweep hmem
    exact ⟨t, ht, he, by rintro _ ⟨⟩, by rintro ⟨⟩⟩

theorem taken_eq (h : Queued settings newest seen taken none []) : taken = seen := by
  rcases h.last rfl with ⟨-, htaken⟩ | hlast
  · exact htaken
  · cases hlast

end Queued

/-! ## The operator -/

namespace Cluster

/-- Whether what was derived and published in a cluster is what these exchanges led to. -/
structure Records (c : Cluster) (log : List OperatorExchange) : Prop where
  derived : c.derived = Derived.replay {} log
  documents : ∀ k, c.distributor.config? k = (log.foldl OperatorExchange.tell ∅).get? k

/-- Whether nothing has changed but objects, the time and subscribers. -/
structure Passes (c c' : Cluster) : Prop where
  kept : c'.Kept
  precedes : c.snapshot.Precedes c'.snapshot
  derived : c'.derived = c.derived
  documents : ∀ k, c'.distributor.config? k = c.distributor.config? k

theorem Notes.passes {c c' : Cluster} {e : StatusExchange} (h : c.Notes e c') : c.Passes c' :=
  ⟨h.kept, h.precedes, h.derived, fun k => by rw [h.distributor]⟩

theorem Records.passes {c c' : Cluster} {log : List OperatorExchange} (h : c.Records log)
    (hc : c.Passes c') : c'.Records log :=
  ⟨hc.derived.trans h.derived, fun k => (hc.documents k).trans (h.documents k)⟩

theorem Records.answers {c c' : Cluster} {log : List OperatorExchange} {e : OperatorExchange}
    (h : c.Records log) (hc : c.Answers e c') : c'.Records (log ++ [e]) where
  derived := by
    rw [hc.derived, h.derived, Derived.replay_append]
    rfl
  documents k := by
    rw [hc.distributor, List.foldl_append]
    exact Distributor.config?_exchange h.documents e k

end Cluster

open RoundExchange OperatorExchange

/-- Where a round stands that the operator began for `taken`: before it are the exchanges of earlier
rounds, and `log` are those of the round itself. -/
structure Underway (settings : Settings) (c : Cluster) (taken handed : Snapshot) (op : Operator)
    (before : List OperatorExchange) (log : List RoundExchange) (round : RoundProgram Operator) :
    Prop where
  reached : Operator.Reached settings (Sweep.Rendered settings) op before
  reaches : Reaches (op.round settings (.ofSnapshot settings taken)) log round
  records : c.Records (before ++ calls log)
  clean : taken = c.snapshot → Clean (calls log)
  hands : ∀ b u, ⟨.hand b, u⟩ ∈ log → handed = taken

/-- What the operator has taken up, and what it has made of it. -/
inductive OperatorStage.Follows (settings : Settings) (c : Cluster) (taken handed : Snapshot) :
    OperatorStage → Prop
  | waiting {op : Operator} {log : List OperatorExchange}
    (reached : Operator.Reached settings (Sweep.Rendered settings) op log) (records : c.Records log)
    (settled : taken = c.snapshot → c.derived = .ofSweep (.ofSnapshot settings taken))
    (hands : handed = taken) : Follows settings c taken handed (.waiting op)
  | working {op : Operator} {before : List OperatorExchange} {log : List RoundExchange}
    {round : RoundProgram Operator} (h : Underway settings c taken handed op before log round) :
    Follows settings c taken handed (.working round)
  | pausing {op : Operator} {before : List OperatorExchange} {log : List RoundExchange}
    {round : RoundProgram Operator} {moment : Nat}
    (h : Underway settings c taken handed op before log round) :
    Follows settings c taken handed (.pausing moment round)

namespace Underway

variable {c c' : Cluster} {taken handed : Snapshot} {op : Operator}
  {before : List OperatorExchange} {log : List RoundExchange} {round : RoundProgram Operator}

theorem passes (h : Underway settings c taken handed op before log round) (hc : c.Passes c')
    (htaken : taken.Precedes c.snapshot) :
    Underway settings c' taken handed op before log round where
  reached := h.reached
  reaches := h.reaches
  records := h.records.passes hc
  clean he := h.clean (he.trans (htaken.squeeze hc.precedes he).symm)
  hands := h.hands

theorem operator {call : OperatorCall} {next : call.Reply → RoundProgram Operator}
    (h : Underway settings c taken handed op before log (.ask (.operator call) next))
    (htaken : taken.Precedes c.snapshot) {reply : call.Reply} (hc : c.Answers ⟨call, reply⟩ c') :
    Underway settings c' taken handed op before (log ++ [ofOperator ⟨call, reply⟩])
      (next reply) where
  reached := h.reached
  reaches := h.reaches.snoc reply
  records := by
    rw [calls_append, ← List.append_assoc]
    exact h.records.answers hc
  clean he := by
    have hsame := htaken.squeeze hc.precedes he
    rw [calls_append]
    intro e hmem
    rcases List.mem_append.1 hmem with hmem | hmem
    · exact h.clean (he.trans hsame.symm) e hmem
    · rw [List.mem_singleton.1 hmem]
      refine (hc.succeeds hsame.symm).resolve_right ?_
      rintro ⟨key, finalizer, r, he', hnone⟩
      -- only gateways of the sweep are given the finalizer, and these are there
      have hmarks := Operator.marks_round (Sweep.sound_ofSnapshot settings taken)
        (h.reaches.snoc reply) ⟨call, reply⟩ (by
          rw [calls_append]
          exact List.mem_append_right _ (List.mem_singleton.2 rfl))
      rw [he'] at hmarks
      obtain ⟨render, hrender⟩ := hmarks
      obtain ⟨output, hkey, -⟩ := Sweep.render_of_get? hrender
      obtain ⟨b, hb, rfl⟩ := List.mem_map.1 hkey
      have hgateway := Snapshot.gateway?_eq_some_iff.2 (Snapshot.mem_gateways_iff.1 hb)
      rw [he, ← hsame] at hgateway
      exact absurd (hnone.symm.trans hgateway) (Option.some_ne_none _).symm
  hands b u hmem := by
    rcases List.mem_append.1 hmem with hmem | hmem
    · exact h.hands b u hmem
    · cases List.mem_singleton.1 hmem

theorem hand {b : StatusBatch} {next : Unit → RoundProgram Operator}
    (h : Underway settings c taken handed op before log (.ask (.hand b) next)) :
    Underway settings c taken taken op before (log ++ [⟨.hand b, ()⟩]) (next ()) ∧
      b.statuses = (Sweep.ofSnapshot settings taken).statuses := by
  have hreaches := h.reaches.snoc ()
  have hcalls : calls (log ++ [⟨.hand b, ()⟩]) = calls log := by
    rw [calls_append]
    exact List.append_nil _
  refine ⟨⟨h.reached, hreaches, ?_, ?_, fun _ _ _ => rfl⟩, ?_⟩
  · rw [hcalls]
    exact h.records
  · rw [hcalls]
    exact h.clean
  · exact Operator.statuses_of_hand hreaches
      (List.mem_append_right _ (List.mem_singleton.2 rfl) : ⟨.hand b, ()⟩ ∈ log ++ [⟨.hand b, ()⟩])

theorem report {next : UpdateReport → RoundProgram Operator}
    (h : Underway settings c taken handed op before log (.ask .report next))
    (report : UpdateReport) :
    Underway settings c taken handed op before (log ++ [⟨.report, report⟩]) (next report) := by
  have hcalls : calls (log ++ [⟨.report, report⟩]) = calls log := by
    rw [calls_append]
    exact List.append_nil _
  refine ⟨h.reached, h.reaches.snoc report, ?_, ?_, fun b u hmem => ?_⟩
  · rw [hcalls]
    exact h.records
  · rw [hcalls]
    exact h.clean
  · rcases List.mem_append.1 hmem with hmem | hmem
    · exact h.hands b u hmem
    · cases List.mem_singleton.1 hmem

/-- A round that has ended leaves what its sweep calls for, if that shows the newest snapshot. -/
theorem done {op' : Operator}
    (h : Underway settings c taken handed op before log (.done op')) :
    (OperatorStage.waiting op').Follows settings c taken handed := by
  obtain ⟨l, hreached, hreplay, htell, hsettled⟩ := h.reached.round h.reaches
  obtain ⟨b, hb⟩ := Operator.hand_of_runs_round h.reaches
  have hderived : c.derived = Derived.replay {} (before ++ l) := by
    rw [h.records.derived, Derived.replay_append, Derived.replay_append, hreplay]
  refine .waiting hreached ⟨hderived, fun k => ?_⟩ (fun he => ?_) (h.hands b () hb)
  · rw [h.records.documents k, List.foldl_append, List.foldl_append, htell]
  · rw [hderived]
    exact hsettled (h.clean he)

end Underway

namespace OperatorStage.Follows

variable {c c' : Cluster} {taken handed : Snapshot} {stage : OperatorStage}

theorem passes (h : stage.Follows settings c taken handed) (hc : c.Passes c')
    (htaken : taken.Precedes c.snapshot) : stage.Follows settings c' taken handed := by
  cases h with
  | waiting reached records settled hands =>
    refine .waiting reached (records.passes hc) (fun he => ?_) hands
    rw [hc.derived]
    exact settled (he.trans (htaken.squeeze hc.precedes he).symm)
  | working h => exact .working (h.passes hc htaken)
  | pausing h => exact .pausing (h.passes hc htaken)

/-- When the operator waits and has taken up the newest snapshot, the cluster holds what that calls
for. -/
theorem at_rest {op : Operator} (h : (OperatorStage.waiting op).Follows settings c taken handed)
    (he : taken = c.snapshot) :
    c.derived = .ofSweep (.ofSnapshot settings taken) ∧
      (∀ k, c.distributor.config? k = (c.artifacts.get? k).map (·.config)) ∧ handed = taken := by
  cases h with
  | @waiting _ log reached records settled hands =>
    refine ⟨settled he, fun k => ?_, hands⟩
    have hag : (log.foldl tell ∅).get? k =
        ((Derived.replay {} log).artifacts.get? k).map (·.config) :=
      reached.told.agrees (fun _ => rfl) k
    rw [records.documents k, hag, ← records.derived]
    rfl

/-- The operator takes up a sweep. -/
theorem take {op : Operator} (h : (OperatorStage.waiting op).Follows settings c taken handed)
    (s : Snapshot) :
    (OperatorStage.working (op.round settings (.ofSnapshot settings s))).Follows settings c s
      handed := by
  cases h with
  | @waiting _ log reached records _ _ =>
    have hrecords : c.Records (log ++ calls []) := by
      rw [show log ++ calls [] = log from List.append_nil _]
      exact records
    exact .working ⟨reached, .here _, hrecords, by rintro - _ ⟨⟩, by rintro _ _ ⟨⟩⟩

end OperatorStage.Follows

/-! ## The updater -/

/-- Whether every status that a snapshot calls for is pending or there already. -/
def Updater.Owes (settings : Settings) (s : Snapshot) (u : Updater) : Prop :=
  ∀ r status, (Sweep.ofSnapshot settings s).statuses.get? r = some status →
    u.pending.get? r = some status ∨
      ∃ o, s.get? r = some o ∧ o.Carries settings.controllerName status

/-- What the updater has made of the statuses of a snapshot that was the newest all the time. -/
inductive UpdaterStage.Tends (settings : Settings) (s : Snapshot) : UpdaterStage → Prop
  | waiting {u : Updater} (owes : u.Owes settings s) : Tends settings s (.waiting u)
  | writing {u : Updater} {conclude : UpdateReport × Updater → Option UpdateReport × Updater}
    {log : List StatusExchange} {task : StatusProgram (Option UpdateReport × Updater)}
    (owes : u.Owes settings s) (concludes : ∀ result, (conclude result).2 = result.2)
    (reaches : Reaches (conclude <$> u.flush settings) log task)
    (leaves : ∀ e ∈ log, e.Leaves s) : Tends settings s (.writing task)

namespace UpdaterStage.Tends

variable {s : Snapshot}

theorem retry {u : Updater} (h : (UpdaterStage.waiting u).Tends settings s) :
    (UpdaterStage.writing ((fun (_, u) => (none, u)) <$> u.flush settings)).Tends settings s := by
  cases h with
  | waiting owes => exact .writing owes (fun _ => rfl) (.here _) (by rintro _ ⟨⟩)

theorem call {c : StatusCall} {next : c.Reply → StatusProgram (Option UpdateReport × Updater)}
    (h : (UpdaterStage.writing (.ask c next)).Tends settings s) {reply : c.Reply}
    (he : StatusExchange.Leaves s ⟨c, reply⟩) :
    (UpdaterStage.writing (next reply)).Tends settings s := by
  cases h with
  | writing owes concludes reaches leaves =>
    refine .writing owes concludes (reaches.snoc reply) fun e hmem => ?_
    rcases List.mem_append.1 hmem with hmem | hmem
    · exact leaves e hmem
    · rw [List.mem_singleton.1 hmem]
      exact he

theorem done (hs : s.Filed) {report : Option UpdateReport} {u' : Updater}
    (h : (UpdaterStage.writing (.done (report, u'))).Tends settings s) :
    (UpdaterStage.waiting u').Tends settings s := by
  cases h with
  | @writing u conclude log _ owes concludes reaches leaves =>
    refine .waiting fun r status hstatus => ?_
    obtain ⟨o, ho, hkind⟩ := Sweep.object_of_status hs hstatus
    obtain ⟨⟨report', u''⟩, hflush, he⟩ := runs_map_iff.1 reaches
    have hu : u' = u'' := (congrArg Prod.snd he).trans (concludes _)
    subst hu
    rcases owes r status hstatus with hpending | hcarried
    · rcases Updater.runs_flush hflush leaves hpending ho hkind with hpending' | hcarries
      · exact .inl hpending'
      · exact .inr ⟨o, ho, hcarries⟩
    · exact .inr hcarried

/-- When the updater waits with nothing pending, every status is there. -/
theorem at_rest {u : Updater} (h : (UpdaterStage.waiting u).Tends settings s)
    (hnone : u.pending.toList = []) {r : ResourceKey} {status : ResourceStatus}
    (hstatus : (Sweep.ofSnapshot settings s).statuses.get? r = some status) :
    ∃ o, s.get? r = some o ∧ o.Carries settings.controllerName status := by
  cases h with
  | waiting owes =>
    rcases owes r status hstatus with hpending | hcarried
    · have hmem := SortedMap.get?_eq_some_iff.1 hpending
      rw [hnone] at hmem
      cases hmem
    · exact hcarried

end UpdaterStage.Tends

/-- What the updater was handed, and what it has made of it if there is nothing newer. -/
structure Entrusted (settings : Settings) (newest handed : Snapshot) (batches : List StatusBatch)
    (stage : UpdaterStage) : Prop where
  last : ∀ b, batches.getLast? = some b →
    b.statuses = (Sweep.ofSnapshot settings handed).statuses
  tends : batches = [] → handed = newest → stage.Tends settings newest

namespace Entrusted

variable {newest handed : Snapshot} {batches : List StatusBatch} {stage : UpdaterStage}

theorem later (h : Entrusted settings newest handed batches stage)
    (hhanded : handed.Precedes newest) {s : Snapshot} (hs : newest.Precedes s) :
    Entrusted settings s handed batches stage where
  last := h.last
  tends hnil he := by
    have hsame := hhanded.squeeze hs he
    subst hsame
    exact h.tends hnil he

theorem hand {b : StatusBatch} {taken : Snapshot}
    (hb : b.statuses = (Sweep.ofSnapshot settings taken).statuses) :
    Entrusted settings newest taken (batches ++ [b]) stage where
  last b' hb' := by
    rw [List.getLast?_concat] at hb'
    cases hb'
    exact hb
  tends hnil := absurd hnil (by simp)

/-- The updater takes up the newest batch. -/
theorem take {u : Updater} (h : Entrusted settings newest handed batches stage)
    (hne : batches ≠ []) (awaited : Bool) :
    Entrusted settings newest handed [] (.writing
      ((fun (report, u) => (report.filter fun _ => awaited, u)) <$>
        u.receive settings batches)) where
  last b hb := by cases hb
  tends _ he := by
    obtain ⟨b, hb⟩ := Option.ne_none_iff_exists'.1 (mt List.getLast?_eq_none_iff.1 hne)
    rw [Updater.receive_eq settings u hb, ← comp_map]
    refine .writing (fun r status hstatus => .inl ?_) (fun _ => rfl) (.here _) (by rintro _ ⟨⟩)
    show b.statuses.get? r = some status
    rw [h.last b hb, he]
    exact hstatus

end Entrusted

end RelayFleet
