/-
Edits of a gateway's finalizers among other writers. The whole list is replaced, but in the version
that it was read in just before, so nobody else's finalizer is lost: a patch that is taken edits the
list that the gateway carries at that moment. Main statement: `conduct_of_among`.
-/
import RelayFleet.Proofs.Api.Server
import RelayFleet.Proofs.Retry

namespace RelayFleet

open Program

namespace FinalizerChange

variable {gateway : ObjectKey} {finalizer : String} {change : FinalizerChange}
  {present edited : List String}

/-! ## Edits of a list -/

/-- Whether a list is as a change wants it. -/
def Settled (finalizer : String) (l : List String) : FinalizerChange → Prop
  | add => finalizer ∈ l
  | remove => finalizer ∉ l

/-- A change as an edit of a list: the finalizer is put at the end of a list without it, or taken out
of a list with it, as often as it is there. -/
def Edits (finalizer : String) (present edited : List String) : FinalizerChange → Prop
  | add => finalizer ∉ present ∧ edited = present ++ [finalizer]
  | remove => finalizer ∈ present ∧ edited = present.filter (· ≠ finalizer)

theorem edits_of_apply (h : change.apply finalizer present = some edited) :
    change.Edits finalizer present edited := by
  cases change with
  | add =>
    obtain ⟨hnot, hedited⟩ := Option.ite_none_left_eq_some.1 h
    exact ⟨mt List.contains_iff_mem.2 hnot, (Option.some.inj hedited).symm⟩
  | remove =>
    obtain ⟨hmem, hedited⟩ := Option.ite_none_right_eq_some.1 h
    exact ⟨List.contains_iff_mem.1 hmem, (Option.some.inj hedited).symm⟩

theorem settled_of_apply (h : change.apply finalizer present = none) :
    change.Settled finalizer present := by
  cases change with
  | add =>
    by_contra hnot
    cases (if_neg (mt List.contains_iff_mem.1 hnot)).symm.trans h
  | remove =>
    intro hmem
    cases (if_pos (List.contains_iff_mem.2 hmem)).symm.trans h

namespace Edits

variable (h : change.Edits finalizer present edited)

include h

theorem settled : change.Settled finalizer edited := by
  cases change with
  | add =>
    rw [h.2]
    exact List.mem_append_right _ (List.mem_singleton_self _)
  | remove =>
    rw [h.2]
    intro hmem
    simp at hmem

/-- The other finalizers stay, and in their order. -/
theorem others : edited.filter (· ≠ finalizer) = present.filter (· ≠ finalizer) := by
  cases change with
  | add =>
    rw [h.2, List.filter_append]
    simp
  | remove =>
    rw [h.2, List.filter_filter]
    simp

end Edits

/-! ## The patch -/

/-- What a patch says about the metadata of a gateway. -/
def metadata (version : String) (finalizers : List String) : List (String × Json) :=
  [("resourceVersion", .str version), ("finalizers", .list .str finalizers)]

/-- A patch brings an object into its version and gives it its finalizers. -/
theorem patched_patch (version : String) (finalizers : List String) (j : Json) :
    (Json.patched (patch (some version) finalizers) j).version? = some version ∧
      (Json.patched (patch (some version) finalizers) j).finalizers = finalizers := by
  have hmetadata : (Json.patched (patch (some version) finalizers) j).get? "metadata" =
      some (Json.patched (.obj (metadata version finalizers)) ((j.get? "metadata").getD .null)) :=
    Json.get?_metadata_patched ..
  have hget : ∀ {name v}, (name, v) ∈ metadata version finalizers → v ≠ .null → ∀ target,
      (Json.patched (.obj (metadata version finalizers)) target).get? name =
        some (Json.patched v ((target.get? name).getD .null)) := by
    intro name v hmem hv target
    rw [Json.get?_patched (by simp [metadata]) hmem, if_neg hv]
  constructor
  · rw [Json.version?, hmetadata, Option.bind_some,
      hget (List.mem_cons_self ..) (by rintro ⟨⟩)]
    rfl
  · rw [Json.finalizers, hmetadata, Option.bind_some,
      hget (List.mem_cons_of_mem _ (List.mem_singleton_self _)) (by rintro ⟨⟩)]
    have hlist : Json.list? Json.text? (.arr (finalizers.map .str)) = some finalizers :=
      Json.list?_map fun _ _ => rfl
    exact congrArg (·.getD []) hlist

/-! ## One attempt -/

/-- The path of the requests about a gateway. -/
def path (gateway : ObjectKey) : String := gateways.requestPath gateway

/-- A call with its reply. -/
abbrev ApiExchange := Exchange ApiRequest fun _ => ApiReply

variable {log : List ApiExchange} {result : Except Fault Unit}

/-- What an attempt may come to, and by what exchanges. -/
inductive Attempted (gateway : ObjectKey) (finalizer : String) (change : FinalizerChange) :
    List ApiExchange → Except Fault Unit → Prop
  | unnamed (f : Fault) : Attempted gateway finalizer change [] (.error f)
  | unread {read : ApiRequest} {reply : ApiReply} (f : Fault)
      (hread : ApiRequest.of? .get gateways gateway = some read) :
      Attempted gateway finalizer change [⟨read, reply⟩] (.error f)
  | missing {read : ApiRequest} {reply : ApiReply}
      (hread : ApiRequest.of? .get gateways gateway = some read)
      (hnone : ApiProgram.readPresent (Gateway.ofJson? .direct) reply = .ok none) :
      Attempted gateway finalizer change [⟨read, reply⟩] (change.onMissing gateway)
  | settled {read : ApiRequest} {reply : ApiReply} {g : Gateway}
      (hread : ApiRequest.of? .get gateways gateway = some read)
      (hg : reply.read (Gateway.ofJson? .direct) = .ok g)
      (hsettled : change.Settled finalizer g.metadata.finalizerList) :
      Attempted gateway finalizer change [⟨read, reply⟩] (.ok ())
  | patched {read write : ApiRequest} {reply reply' : ApiReply} {g : Gateway} {edited : List String}
      (hread : ApiRequest.of? .get gateways gateway = some read)
      (hg : reply.read (Gateway.ofJson? .direct) = .ok g)
      (hedits : change.Edits finalizer g.metadata.finalizerList edited)
      (hwrite : ApiRequest.of? (.merge (patch g.metadata.resourceVersion edited) false) gateways
        gateway = some write) :
      Attempted gateway finalizer change [⟨read, reply⟩, ⟨write, reply'⟩]
        ((ApiProgram.readHeld gateways reply').mapError (Fault.about gateway.text))

theorem attempted_of_runs (h : Runs (change.attempt gateway finalizer) log result) :
    Attempted gateway finalizer change log result := by
  obtain ⟨present, l₁, l₂, rfl, hsend, hrest⟩ := runs_bind_iff.1 h
  rcases ApiProgram.runs_send hsend with ⟨f, rfl, rfl⟩ | ⟨read, reply, hread, rfl, rfl⟩
  · obtain ⟨rfl, rfl⟩ := runs_pure_iff.1 hrest
    exact .unnamed f
  · rcases hpresent : ApiProgram.readPresent (Gateway.ofJson? .direct) reply with f | _ | g
    · rw [hpresent] at hrest
      obtain ⟨rfl, rfl⟩ := runs_pure_iff.1 hrest
      exact .unread _ hread
    · rw [hpresent] at hrest
      obtain ⟨rfl, rfl⟩ := runs_pure_iff.1 hrest
      exact .missing hread hpresent
    · rw [hpresent] at hrest
      have hg := ApiReply.readPresent_eq_some hpresent
      dsimp only [Except.mapError] at hrest
      cases happly : change.apply finalizer g.metadata.finalizerList with
      | none =>
        rw [happly] at hrest
        obtain ⟨rfl, rfl⟩ := runs_pure_iff.1 hrest
        exact .settled hread hg (settled_of_apply happly)
      | some edited =>
        rw [happly] at hrest
        rcases ApiProgram.runs_send hrest with ⟨f, rfl, rfl⟩ | ⟨write, reply', hwrite, rfl, rfl⟩
        · exact .unread f hread
        · exact .patched hread hg (edits_of_apply happly) hwrite

/-- What an attempt asks for: the gateway, or after that, if its finalizers are not as they should
be, a patch of them in the version that was read. -/
theorem asks_attempt {request : ApiRequest} (h : Asks (change.attempt gateway finalizer) log request) :
    ApiRequest.of? .get gateways gateway = some request ∨ ∃ read reply g edited,
      log = [⟨read, reply⟩] ∧ ApiRequest.of? .get gateways gateway = some read ∧
      reply.read (Gateway.ofJson? .direct) = .ok g ∧
      change.Edits finalizer g.metadata.finalizerList edited ∧
      ApiRequest.of? (.merge (patch g.metadata.resourceVersion edited) false) gateways gateway =
        some request := by
  obtain ⟨rest, result, hrun⟩ := h.extends (fun _ => .lost) .lost
  have hattempted := attempted_of_runs hrun
  generalize hlog : log ++ ⟨request, .lost⟩ :: rest = all at hattempted
  rcases log with - | ⟨first, - | ⟨second, log⟩⟩
  · left
    cases hattempted <;> cases hlog <;> assumption
  · right
    cases hattempted with
    | patched hread hg hedits hwrite =>
      cases hlog
      exact ⟨_, _, _, _, rfl, hread, hg, hedits, hwrite⟩
    | _ => simp at hlog
  · cases hattempted <;> simp at hlog

theorem Attempted.reads_le (h : Attempted gateway finalizer change log result) :
    log.countP (·.1.reads) ≤ 1 := by
  cases h with
  | unnamed => exact Nat.zero_le _
  | unread | missing | settled => exact List.countP_le_length
  | @patched read write _ _ _ _ _ _ _ hwrite =>
    have hnot : write.reads = false := by
      rw [ApiRequest.reads, (ApiRequest.of_of? hwrite).1]
      rfl
    rw [List.countP_cons, List.countP_singleton, hnot]
    cases read.reads <;> decide

/-- A gateway is read no more often than attempts are made. -/
theorem reads_le (h : Runs (change.program gateway finalizer) log result) :
    log.countP (·.1.reads) ≤ attempts := by
  obtain ⟨failed, last, rfl, hlength, hfailed, hlast⟩ := Retry.runs_repeating_at_once h
  have hone : ∀ n ∈ failed.map (List.countP fun e => e.1.reads), n ≤ 1 := by
    intro n hn
    obtain ⟨part, hpart, rfl⟩ := List.mem_map.1 hn
    obtain ⟨f, -, hrun⟩ := hfailed part hpart
    exact (attempted_of_runs hrun).reads_le
  have hsum : (failed.map (List.countP fun e => e.1.reads)).sum ≤ failed.length := by
    simpa using List.sum_le_card_nsmul _ 1 hone
  rw [List.countP_append, List.countP_flatten]
  exact (Nat.add_le_add (hsum.trans hlength) (attempted_of_runs hlast).reads_le)

/-! ## Among other writers -/

/-- Whether the gateway is as a change wants it. A gateway that is gone has no finalizers. -/
def SettledAt (gateway : ObjectKey) (finalizer : String) (s : ApiServer) : FinalizerChange → Prop
  | add => ∃ j, s.objects.get? (path gateway) = some j ∧ finalizer ∈ j.finalizers
  | remove => ∀ j, s.objects.get? (path gateway) = some j → finalizer ∉ j.finalizers

theorem settledAt_of_get? {s : ApiServer} {j : Json}
    (hj : s.objects.get? (path gateway) = some j) (h : change.Settled finalizer j.finalizers) :
    change.SettledAt gateway finalizer s := by
  cases change with
  | add => exact ⟨j, hj, h⟩
  | remove =>
    intro j' hj'
    cases hj.symm.trans hj'
    exact h

/-- How a change goes about: what it asks for, and what comes of it. -/
structure Conduct (gateway : ObjectKey) (finalizer : String) (change : FinalizerChange)
    (q : ApiProgram (Except Fault Unit)) (turns : List ApiTurn) : Prop where
  about : ∀ t ∈ turns, t.request.path = path gateway
  /-- What changes anything edits the finalizers that the gateway has just then. -/
  edits : ∀ t ∈ turns, t.after = t.before ∨ ∃ held after,
    t.before.objects.get? (path gateway) = some held ∧ t.after = t.before.put (path gateway) after ∧
      change.Edits finalizer held.finalizers after.finalizers ∧
      after.finalizers.filter (· ≠ finalizer) = held.finalizers.filter (· ≠ finalizer)
  /-- What is not a read is a patch in the version of the read right before it, of finalizers that
  were found not to be as they should be. -/
  needed : ∀ earlier t later, turns = earlier ++ t :: later → t.request.reads = false →
    ∃ before read j edited, earlier = before ++ [read] ∧ read.request.verb = .get ∧
      read.before.objects.get? (path gateway) = some j ∧
      change.Edits finalizer j.finalizers edited ∧
      t.request.verb = .merge (patch j.version? edited) false
  /-- A change that is reported to be made was seen to be made, last of all. -/
  settles : q = .done (.ok ()) →
    ∃ t, turns.getLast? = some t ∧ change.SettledAt gateway finalizer t.after
  reads : turns.countP (·.request.reads) ≤ attempts

variable {q : ApiProgram (Except Fault Unit)} {s s' : ApiServer} {turns earlier later : List ApiTurn}
  {t : ApiTurn}

/-- A patch that is taken in a version that the gateway once was in edits the finalizers that the
gateway has just then. -/
theorem edits_of_accepts (hsound : s.Sound) {j : Json} (hj : (path gateway, j) ∈ s.past)
    (hedits : change.Edits finalizer j.finalizers edited)
    (ha : s.Accepts (path gateway) (patch j.version? edited) s') :
    ∃ after, s.objects.get? (path gateway) = some j ∧ s' = s.put (path gateway) after ∧
      change.Edits finalizer j.finalizers after.finalizers := by
  obtain ⟨held, after, version, hheld, hcurrent, -, -, hfinalizers, rfl⟩ := ha
  obtain ⟨v, hv⟩ := Option.ne_none_iff_exists'.1 (hsound.versioned _ j hj)
  rw [hv] at hcurrent hfinalizers
  obtain ⟨hversion, hlist⟩ := patched_patch v edited held
  cases ApiServer.eq_of_accepts hsound hj hheld (hversion.trans hv.symm) hcurrent
  refine ⟨after, hheld, rfl, ?_⟩
  rw [hfinalizers, hlist]
  exact hedits

/-- What was asked for at a turn: the gateway, or a patch after the gateway was read. What was read is
still known to the server. -/
theorem turn_cases (h : Observed (change.program gateway finalizer) q s (earlier ++ t :: later)) :
    t.request.path = path gateway ∧ (t.request.verb = .get ∨ ∃ before read j edited,
      earlier = before ++ [read] ∧ read.request.verb = .get ∧
      read.before.objects.get? (path gateway) = some j ∧ (path gateway, j) ∈ t.before.past ∧
      change.Edits finalizer j.finalizers edited ∧
      t.request.verb = .merge (patch j.version? edited) false) := by
  obtain ⟨log, last, hlog, hasks | ⟨_, hasks⟩⟩ := Retry.asks_repeating h.asks
  · rcases asks_attempt hasks with hread | ⟨read, reply, g, edited, rfl, hread, hg, hedits, hwrite⟩
    · exact ⟨(ApiRequest.of_of? hread).2, .inl (ApiRequest.of_of? hread).1⟩
    · refine ⟨(ApiRequest.of_of? hwrite).2, .inr ?_⟩
      obtain ⟨before, l, rfl, -, hl⟩ := List.map_eq_append_iff.1 hlog
      obtain ⟨r, rfl, hr⟩ := List.map_eq_singleton_iff.1 hl
      cases hr
      obtain ⟨hverb, hpath⟩ := ApiRequest.of_of? hread
      obtain ⟨j, hj, hg, hversioned, hpast⟩ := h.held_of_read hverb hg
      obtain ⟨hversion, hfinalizers⟩ := Gateway.of_ofJson? hg hversioned
      rw [hpath] at hj hpast
      rw [hfinalizers] at hedits
      rw [hversion] at hwrite
      exact ⟨before, r, j, edited, rfl, hverb, hj, hpast, hedits, (ApiRequest.of_of? hwrite).1⟩
  · exact absurd hasks (not_asks_pure _)

/-- What changes anything edits the finalizers that the gateway has just then. -/
theorem edits_of_turn (h : Observed (change.program gateway finalizer) q s (earlier ++ t :: later)) :
    (t.after = t.before ∧ (t.reply.Refuses ∨ t.request.verb = .get)) ∨ ∃ held after,
      t.before.objects.get? (path gateway) = some held ∧
      t.after = t.before.put (path gateway) after ∧
      change.Edits finalizer held.finalizers after.finalizers := by
  obtain ⟨hpath, hcases⟩ := turn_cases h
  obtain ⟨hsound, hanswers⟩ := h.answered t (by simp)
  obtain ⟨before, request, reply, after⟩ := t
  cases hanswers with
  | held hverb | missing hverb => exact .inl ⟨rfl, .inr hverb⟩
  | refuse hreply => exact .inl ⟨rfl, .inl hreply⟩
  | accept hmerge ha =>
    right
    rcases hcases with hget | ⟨_, _, j, edited, -, -, -, hpast, hedits, hverb⟩
    · cases hget.symm.trans hmerge
    · cases hverb.symm.trans hmerge
      rw [hpath] at ha
      exact ⟨j, edits_of_accepts hsound hpast hedits ha⟩

/-- A change that is reported to be made was seen to be made, last of all. -/
theorem settledAt_of_done (h : Observed (change.program gateway finalizer) (.done (.ok ())) s turns) :
    ∃ t, turns.getLast? = some t ∧ change.SettledAt gateway finalizer t.after := by
  obtain ⟨failed, last, hlog, -, -, hlast⟩ := Retry.runs_repeating_at_once h.reaches
  obtain ⟨before, l, rfl, -, hl⟩ := List.map_eq_append_iff.1 hlog
  have hattempted := attempted_of_runs hlast
  generalize hok : (Except.ok () : Except Fault Unit) = result at hattempted
  cases hattempted with
  | unnamed | unread => cases hok
  | missing hread hnone =>
    obtain ⟨t, rfl, ht⟩ := List.map_eq_singleton_iff.1 hl
    cases ht
    obtain ⟨hverb, hpath⟩ := ApiRequest.of_of? hread
    obtain ⟨hrefuses, hmissing⟩ := ApiReply.readPresent_eq_none hnone
    obtain ⟨-, hanswers⟩ := h.answered t (by simp)
    obtain ⟨hsame, hgone⟩ := ApiServer.none_of_read hanswers hverb hmissing hrefuses
    refine ⟨t, List.getLast?_concat, ?_⟩
    cases change with
    | add => cases hok
    | remove =>
      intro j hj
      rw [hsame] at hj
      rw [hpath] at hgone
      cases hgone.symm.trans hj
  | settled hread hg hsettled =>
    obtain ⟨t, rfl, ht⟩ := List.map_eq_singleton_iff.1 hl
    cases ht
    obtain ⟨hverb, hpath⟩ := ApiRequest.of_of? hread
    obtain ⟨hsound, hanswers⟩ := h.answered t (by simp)
    obtain ⟨hsame, j, hj, hg⟩ := ApiServer.held_of_read hanswers hverb hg
    have hversioned := hsound.versioned _ j (hsound.held _ j hj)
    rw [(Gateway.of_ofJson? hg hversioned).2] at hsettled
    rw [hpath, ← hsame] at hj
    exact ⟨t, List.getLast?_concat, settledAt_of_get? hj hsettled⟩
  | patched hread hg hedits hwrite =>
    obtain ⟨r, l, rfl, -, hl⟩ := List.map_eq_cons_iff.1 hl
    obtain ⟨t, rfl, ht⟩ := List.map_eq_singleton_iff.1 hl
    cases ht
    refine ⟨t, by simp, ?_⟩
    rw [← List.singleton_append, ← List.append_assoc] at h
    rcases edits_of_turn h with ⟨-, hrefuses | hget⟩ | ⟨held, after, -, hafter, hedits⟩
    · have hheld : ApiProgram.readHeld gateways t.reply = .ok () := by
        revert hok
        cases ApiProgram.readHeld gateways t.reply with
        | error => rintro ⟨⟩
        | ok => exact fun _ => rfl
      exact absurd hrefuses (ApiReply.read_eq_ok hheld).1
    · cases hget.symm.trans (ApiRequest.of_of? hwrite).1
    · refine settledAt_of_get? (j := after) ?_ hedits.settled
      rw [hafter]
      exact SortedMap.get?_insert_self ..

/-- However others write between its reads and patches, a change edits the finalizers that the gateway
has at the moment of a patch, asks for nothing that is not needed, and comes out well only if the
gateway is as it should be. -/
theorem conduct_of_among (h : Among (change.program gateway finalizer) q s turns) :
    Conduct gateway finalizer change q turns where
  about t ht := by
    obtain ⟨earlier, later, rfl⟩ := List.append_of_mem ht
    exact (turn_cases (observed_of_among h)).1
  edits t ht := by
    obtain ⟨earlier, later, rfl⟩ := List.append_of_mem ht
    rcases edits_of_turn (observed_of_among h) with ⟨hsame, -⟩ | ⟨held, after, hheld, hafter, hedits⟩
    · exact .inl hsame
    · exact .inr ⟨held, after, hheld, hafter, hedits, hedits.others⟩
  needed earlier t later hturns hnot := by
    subst hturns
    rcases (turn_cases (observed_of_among h)).2 with hget | ⟨before, read, j, edited, hbefore, hverb,
      hj, -, hedits, hmerge⟩
    · rw [ApiRequest.reads, hget] at hnot
      cases hnot
    · exact ⟨before, read, j, edited, hbefore, hverb, hj, hedits, hmerge⟩
  settles hq := by
    subst hq
    exact settledAt_of_done (observed_of_among h)
  reads := by
    obtain ⟨rest, result, hrun⟩ := (observed_of_among h).reaches.extends fun _ => .lost
    have hle := reads_le hrun
    rw [List.countP_append, List.countP_map] at hle
    exact (Nat.le_add_right ..).trans hle

/-! ### A gateway that somebody else edits meanwhile -/

/-- A gateway in a version, with finalizers. -/
def carrying (version : String) (finalizers : List String) : Json :=
  .obj [("metadata", .obj (metadata version finalizers)),
    ("spec", .obj [("gatewayClassName", .str "c")])]

/-- Somebody else adds a finalizer between a look at a gateway and the patch that follows it. -/
def crossing (gateway : ObjectKey) : List Among.Move :=
  [.change (path gateway) (carrying "1" ["other"]), .ask,
    .change (path gateway) (carrying "2" ["other", "another"]), .ask, .ask, .ask]

/-- The first patch is refused, and the second one leaves the finalizers of the others as they are. -/
theorem conduct_for_crossing : ∃ s turns,
    Among (add.program (.namespaced "a" "g") "own") (.done (.ok ())) s turns ∧ turns.length = 4 ∧
      (s.objects.get? (path (.namespaced "a" "g"))).map (·.finalizers) =
        some ["other", "another", "own"] ∧
      Conduct (.namespaced "a" "g") "own" add (.done (.ok ())) turns := by
  obtain ⟨result, s, turns, hamong, hcheck⟩ := Among.of_finished
    (fun result s turns => result.toBool && decide (turns.length = 4 ∧
      (s.objects.get? (path (.namespaced "a" "g"))).map (·.finalizers) =
        some ["other", "another", "own"]))
    (add.program (.namespaced "a" "g") "own") (crossing (.namespaced "a" "g")) (by decide +kernel)
  obtain ⟨hok, hrest⟩ := Bool.and_eq_true_iff.1 hcheck
  obtain ⟨hlength, hfinalizers⟩ := of_decide_eq_true hrest
  cases result with
  | error => cases hok
  | ok => exact ⟨s, turns, hamong, hlength, hfinalizers, conduct_of_among hamong⟩

end FinalizerChange

end RelayFleet
