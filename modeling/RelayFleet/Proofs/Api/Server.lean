/-
The API server among several writers. It holds objects by their paths, and every write brings an
object into a version that it was never in. It merges a patch into an object only if the patch is for
the version that is current, or for none in particular. Others may write between any two requests of
a program, requests may be refused, and a reply may be lost. Main statements: what a request reads is
what is held (`held_of_read`), and an object is not changed between a read of it and a patch of the
version that was read which is taken (`eq_of_accepts`).
-/
import RelayFleet.Api.Write
import RelayFleet.Proofs.Json.Merge
import RelayFleet.Proofs.Json.Record
import RelayFleet.Proofs.Program
import RelayFleet.Proofs.SortedMap
import Mathlib.Data.List.TakeWhile

namespace RelayFleet

open Program

/-! ## Objects -/

namespace Json

/-- The version that an object is in. -/
def version? (j : Json) : Option String :=
  ((j.get? "metadata").bind (·.get? "resourceVersion")).bind text?

/-- The finalizers that an object carries. -/
def finalizers (j : Json) : List String :=
  (((j.get? "metadata").bind (·.get? "finalizers")).bind (list? text?)).getD []

/-- A patch of metadata leaves an object with its metadata patched. -/
theorem get?_metadata_patched (ms : List (String × Json)) (j : Json) :
    (patched (.obj [("metadata", .obj ms)]) j).get? "metadata" =
      some (patched (.obj ms) ((j.get? "metadata").getD .null)) :=
  get?_patched (by simp) (List.mem_singleton_self _) j

/-- A member that may be absent, of an object in which null counts as absent. -/
theorem optional_get? {α : Type} {value? : Json → Option α} {j : Json} {name : String}
    {o : Option α} (h : optional value? (j.get? name) = some o) : o = (j.get? name).bind value? := by
  cases hget : j.get? name with
  | none =>
    rw [hget] at h
    cases h
    rfl
  | some v =>
    have hne := get?_ne_null hget
    rw [hget] at h
    have hread : (value? v).map some = some o := by
      cases v with
      | null => exact absurd rfl hne
      | _ => exact h
    obtain ⟨a, ha, rfl⟩ := Option.map_eq_some_iff.1 hread
    rw [Option.bind_some, ha]

/-- The only member of a name is the one that is found by it, unless it is null. -/
theorem get?_of_onlyMember? {ms : List (String × Json)} {name : String} {v : Json}
    (h : onlyMember? ms name = some (some v)) (hv : v ≠ .null) : (obj ms).get? name = some v := by
  unfold onlyMember? at h
  split at h
  · cases h
  · rename_i m hm
    cases h
    rw [get?_eq]
    show ((ms.reverse.find? _).map _).filter _ = _
    rw [← List.head?_filter, List.filter_reverse, hm]
    exact Option.filter_some_pos (decide_eq_true hv)
  · cases h

end Json

/-- The metadata that is read has the version and the finalizers of the value. -/
theorem Metadata.of_ofJson? {j : Json} {m : Metadata} (h : Metadata.ofJson? j = some m) :
    m.resourceVersion = (j.get? "resourceVersion").bind Json.text? ∧
      m.finalizers = (j.get? "finalizers").bind (Json.list? Json.text?) := by
  obtain ⟨_, -, hread⟩ := Option.bind_eq_some_iff.1 h
  obtain ⟨members, hmembers, hname⟩ := Option.bind_eq_some_iff.1 hread
  cases j with
  | obj ms =>
    cases hmembers
    obtain ⟨_, -, hgenerateName⟩ := Option.bind_eq_some_iff.1 hname
    obtain ⟨_, -, hnamespace⟩ := Option.bind_eq_some_iff.1 hgenerateName
    obtain ⟨_, -, huid⟩ := Option.bind_eq_some_iff.1 hnamespace
    obtain ⟨_, -, hgeneration⟩ := Option.bind_eq_some_iff.1 huid
    obtain ⟨_, -, hversion⟩ := Option.bind_eq_some_iff.1 hgeneration
    obtain ⟨version, hv, hlabels⟩ := Option.bind_eq_some_iff.1 hversion
    obtain ⟨_, -, hannotations⟩ := Option.bind_eq_some_iff.1 hlabels
    obtain ⟨_, -, hfinalizers⟩ := Option.bind_eq_some_iff.1 hannotations
    obtain ⟨finalizers, hf, howners⟩ := Option.bind_eq_some_iff.1 hfinalizers
    obtain ⟨_, -, hcreated⟩ := Option.bind_eq_some_iff.1 howners
    obtain ⟨_, -, hdeleted⟩ := Option.bind_eq_some_iff.1 hcreated
    obtain ⟨_, -, hgrace⟩ := Option.bind_eq_some_iff.1 hdeleted
    obtain ⟨_, -, hlink⟩ := Option.bind_eq_some_iff.1 hgrace
    obtain ⟨_, -, hm⟩ := Option.bind_eq_some_iff.1 hlink
    cases hm
    exact ⟨Json.optional_get? hv, Json.optional_get? hf⟩
  | _ => cases hmembers

/-- The gateway that is read has the version and the finalizers of the object. -/
theorem Gateway.of_ofJson? {how : Json.Reading} {j : Json} {g : Gateway}
    (h : Gateway.ofJson? how j = some g) (hversion : j.version? ≠ none) :
    g.metadata.resourceVersion = j.version? ∧ g.metadata.finalizerList = j.finalizers := by
  cases j with
  | obj ms =>
    obtain ⟨members, hmembers, hread⟩ := Option.bind_eq_some_iff.1 h
    rw [show (Json.obj ms).strict? ["metadata", "spec", "status"] 3 =
      ["metadata", "spec", "status"].mapM (Json.onlyMember? ms) from rfl, List.mapM_cons] at hmembers
    obtain ⟨metadata, hmetadata, hrest⟩ := Option.bind_eq_some_iff.1 hmembers
    obtain ⟨rest, -, hcons⟩ := Option.bind_eq_some_iff.1 hrest
    cases hcons
    match rest, hread with
    | [spec, status], hread =>
      obtain ⟨m, hm, hspec⟩ := Option.bind_eq_some_iff.1 hread
      obtain ⟨_, -, hstatus⟩ := Option.bind_eq_some_iff.1 hspec
      obtain ⟨_, -, hg⟩ := Option.bind_eq_some_iff.1 hstatus
      cases hg
      obtain ⟨v, rfl, hv⟩ := Option.bind_eq_some_iff.1 hm
      obtain ⟨hresourceVersion, hfinalizers⟩ := Metadata.of_ofJson? hv
      have hget : (Json.obj ms).get? "metadata" = some v := by
        refine Json.get?_of_onlyMember? hmetadata ?_
        rintro rfl
        cases hv
      unfold Json.version? Json.finalizers Metadata.finalizerList
      rw [hget, Option.bind_some, Option.bind_some]
      exact ⟨hresourceVersion, congrArg (·.getD []) hfinalizers⟩
  | _ => exact absurd rfl hversion

/-! ## Requests -/

/-- Whether a character is in a path: a mark ends it. -/
def Target.inPath (ch : Char) : Bool := ch ≠ '?' ∧ ch ≠ '#'

/-- The path that requests about an object have. -/
def ApiCollection.requestPath (c : ApiCollection) (key : ObjectKey) : String :=
  .ofList ((c.objectPath key).toList.takeWhile Target.inPath)

theorem Percent.cut_fst (mark : Char) (s : String) :
    (Percent.cut mark s).1 = .ofList (s.toList.takeWhile (· ≠ mark)) := by
  unfold Percent.cut
  rw [List.span_eq_takeWhile_dropWhile]
  cases s.toList.dropWhile (· ≠ mark) <;> rfl

theorem Target.path_of_ofPath? {text : String} {target : Target} (h : ofPath? text = some target) :
    target.path = .ofList (text.toList.takeWhile inPath) := by
  unfold ofPath? at h
  dsimp only at h
  split at h
  · cases h
    rw [Percent.cut_fst, Percent.cut_fst, String.toList_ofList, List.takeWhile_takeWhile]
    simp only [decide_eq_true_eq]
    rfl
  · cases h

/-- What starts with a slash is a path. -/
theorem Target.path_of_ofText? {cs : List Char} {target : Target}
    (h : ofText? (.ofList ('/' :: cs)) = some target) :
    target.path = .ofList (('/' :: cs).takeWhile inPath) := by
  unfold ofText? at h
  split at h
  · cases h
  · split at h
    · rename_i hstar
      cases String.ofList_injective hstar
    · rw [String.toList_ofList] at h
      rw [path_of_ofPath? h, String.toList_ofList]

theorem ApiCollection.objectPath_eq (c : ApiCollection) (key : ObjectKey) :
    ∃ cs, (c.objectPath key).toList = '/' :: cs := by
  unfold objectPath path
  dsimp only
  split <;> simp [String.toList_append]

theorem ApiRequest.takeWhile_queryText (verb : ApiVerb) :
    (queryText verb).toList.takeWhile Target.inPath = [] := by
  unfold queryText
  cases verb <;> simp [String.toList_append, Target.inPath]

/-- Every request about an object has the same path, whatever it asks for. -/
theorem ApiRequest.of_of? {verb : ApiVerb} {c : ApiCollection} {key : ObjectKey}
    {request : ApiRequest} (h : of? verb c key = some request) :
    request.verb = verb ∧ request.path = c.requestPath key := by
  obtain ⟨_, -, htarget⟩ := Option.bind_eq_some_iff.1 h
  obtain ⟨target, ht, hrequest⟩ := Option.bind_eq_some_iff.1 htarget
  cases hrequest
  obtain ⟨cs, hcs⟩ := c.objectPath_eq key
  refine ⟨rfl, ?_⟩
  have htext : c.objectPath key ++ "" ++ queryText verb =
      .ofList ('/' :: (cs ++ (queryText verb).toList)) := by
    rw [String.append_empty, ← List.cons_append, ← hcs, ← String.toList_append, String.ofList_toList]
  rw [htext] at ht
  rw [Target.path_of_ofText? ht, ← List.cons_append, ← hcs, List.takeWhile_append,
    takeWhile_queryText, List.append_nil, ApiCollection.requestPath]
  split
  · rename_i hlength
    rw [(List.takeWhile_prefix _).eq_of_length hlength]
  · rfl

/-- Whether a request asks for no more than an object. -/
def ApiRequest.reads (request : ApiRequest) : Bool := request.verb.method = "GET"

/-- A request about an object is made and its reply is read, unless there is no such request. -/
theorem ApiProgram.runs_send {α : Type} {verb : ApiVerb} {c : ApiCollection} {key : ObjectKey}
    {called : String} {read : ApiReply → Except Fault α}
    {log : List (Exchange ApiRequest fun _ => ApiReply)} {result : Except Fault α}
    (h : Runs (send verb c key called read) log result) :
    (∃ f, log = [] ∧ result = .error f) ∨ ∃ request reply,
      ApiRequest.of? verb c key = some request ∧ log = [⟨request, reply⟩] ∧
        result = (read reply).mapError (Fault.about called) := by
  unfold send at h
  split at h
  · obtain ⟨rfl, rfl⟩ := runs_done_iff.1 h
    exact .inl ⟨_, rfl, rfl⟩
  · rename_i request hrequest
    obtain ⟨reply, rest, rfl, hdone⟩ := runs_ask_iff.1 h
    obtain ⟨rfl, rfl⟩ := runs_done_iff.1 hdone
    exact .inr ⟨request, reply, hrequest, rfl, rfl⟩

/-! ## Replies -/

namespace ApiReply

variable {α : Type} {value? : Json → Option α} {reply : ApiReply} {a : α}

/-- Whether a reply is none, or one that refuses what was asked for. -/
def Refuses : ApiReply → Prop
  | lost => True
  | answered status _ => 400 ≤ status ∧ status < 600

/-- Whether a reply says that there is no such object. -/
def SaysMissing (reply : ApiReply) : Prop :=
  ∃ status text refusal, reply = answered status text ∧
    (Json.parse? text).bind ApiRefusal.ofJson? = some refusal ∧ refusal.reason = "NotFound"

/-- A value is read from a reply only if that does not refuse. -/
theorem read_eq_ok (h : reply.read value? = .ok a) : ¬ reply.Refuses ∧
    ∃ status text j, reply = answered status text ∧ Json.parse? text = some j ∧
      value? j = some a := by
  cases reply with
  | lost => cases h
  | answered status text =>
    unfold read at h
    dsimp only at h
    split at h
    · cases h
    · rename_i hstatus
      refine ⟨hstatus, status, text, ?_⟩
      split at h
      · rename_i hvalue
        cases h
        obtain ⟨j, hj, ha⟩ := Option.bind_eq_some_iff.1 hvalue
        exact ⟨j, rfl, hj, ha⟩
      · cases h

theorem readPresent_eq_some (h : ApiProgram.readPresent value? reply = .ok (some a)) :
    reply.read value? = .ok a := by
  unfold ApiProgram.readPresent at h
  split at h
  · cases h
    assumption
  · split at h <;> cases h
  · cases h

/-- Nothing is read where something may be missing only if the reply says so. -/
theorem readPresent_eq_none (h : ApiProgram.readPresent value? reply = .ok none) :
    reply.Refuses ∧ reply.SaysMissing := by
  unfold ApiProgram.readPresent at h
  split at h
  · cases h
  · rename_i code message reason hread
    split at h
    · rename_i hreason
      subst hreason
      cases reply with
      | lost => cases hread
      | answered status text =>
        unfold read at hread
        dsimp only at hread
        split at hread
        · rename_i hstatus
          refine ⟨hstatus, status, text, ?_⟩
          split at hread
          · rename_i refusal hrefusal
            injection hread with hfault
            injection hfault with _ _ hreason
            exact ⟨refusal, rfl, hrefusal, hreason⟩
          · simp at hread
        · split at hread <;> cases hread
    · cases h
  · cases h

end ApiReply

/-! ## The server -/

/-- The objects that the API server holds, by their paths, and all that it ever held. -/
structure ApiServer where
  objects : SortedMap String Json := ∅
  /-- Every object that was ever at a path, as it was in each version, newest first. -/
  past : List (String × Json) := []

namespace ApiServer

variable {s s' : ApiServer} {path : String} {request : ApiRequest} {reply : ApiReply}

/-- Whether the object at a path was never in a version. -/
def Fresh (s : ApiServer) (path version : String) : Prop :=
  ∀ b ∈ s.past, b.1 = path → b.2.version? ≠ some version

instance (s : ApiServer) (path version : String) : Decidable (s.Fresh path version) :=
  inferInstanceAs (Decidable (∀ b ∈ s.past, b.1 = path → b.2.version? ≠ some version))

/-- Puts an object at a path. -/
def put (s : ApiServer) (path : String) (j : Json) : ApiServer where
  objects := s.objects.insert path j
  past := (path, j) :: s.past

/-- A write of somebody else: an object is created or changed, or deleted. -/
inductive Changes (s : ApiServer) : ApiServer → Prop
  | put {path version : String} {j : Json} (hj : j.version? = some version)
    (hfresh : s.Fresh path version) : Changes s (s.put path j)
  | delete (path : String) : Changes s { s with objects := s.objects.erase path }

/-- The server merges a patch into the object at a path if what comes out is still in the current
version, or in none. The version that it then gets is a new one, and the finalizers are those that
came out. -/
def Accepts (s : ApiServer) (path : String) (patch : Json) (s' : ApiServer) : Prop :=
  ∃ held after version, s.objects.get? path = some held ∧
    ((Json.patched patch held).version? = none ∨
      (Json.patched patch held).version? = held.version?) ∧
    after.version? = some version ∧ s.Fresh path version ∧
    after.finalizers = (Json.patched patch held).finalizers ∧ s' = s.put path after

/-- How the server may answer a read or a patch. It says that an object is missing only if it is. A
patch that is taken may look refused, or the reply may be lost. -/
inductive Answers (s : ApiServer) (request : ApiRequest) : ApiReply → ApiServer → Prop
  | held {text : String} {j : Json} (hverb : request.verb = .get)
    (hj : s.objects.get? request.path = some j) (htext : Json.parse? text = some j) :
    Answers s request (.answered 200 text) s
  | missing {reply : ApiReply} (hverb : request.verb = .get)
    (hnone : s.objects.get? request.path = none) (hreply : reply.Refuses) :
    Answers s request reply s
  | refuse {reply : ApiReply} (hreply : reply.Refuses)
    (hmissing : request.verb = .get → ¬ reply.SaysMissing) : Answers s request reply s
  | accept {patch : Json} {managed : Bool} {s' : ApiServer}
    (hverb : request.verb = .merge patch managed) (ha : s.Accepts request.path patch s')
    (reply : ApiReply) : Answers s request reply s'

/-! ### Versions -/

/-- Whether a version of an object belongs to one state of it. -/
structure Sound (s : ApiServer) : Prop where
  held : ∀ path j, s.objects.get? path = some j → (path, j) ∈ s.past
  versioned : ∀ path j, (path, j) ∈ s.past → j.version? ≠ none
  unique : ∀ path j j', (path, j) ∈ s.past → (path, j') ∈ s.past → j.version? = j'.version? → j = j'

theorem Sound.put (h : s.Sound) {j : Json} {version : String} (hj : j.version? = some version)
    (hfresh : s.Fresh path version) : (s.put path j).Sound where
  held path' j' hget := by
    rcases SortedMap.get?_insert_cases hget with ⟨rfl, rfl⟩ | ⟨-, hold⟩
    · exact List.mem_cons_self ..
    · exact List.mem_cons_of_mem _ (h.held path' j' hold)
  versioned path' j' hmem := by
    rcases List.mem_cons.1 hmem with he | hmem
    · cases he
      exact hj ▸ Option.some_ne_none _
    · exact h.versioned path' j' hmem
  unique path' j₁ j₂ hmem₁ hmem₂ hversion := by
    rcases List.mem_cons.1 hmem₁ with he₁ | hmem₁ <;> rcases List.mem_cons.1 hmem₂ with he₂ | hmem₂
    · cases he₁
      cases he₂
      rfl
    · cases he₁
      exact absurd (hversion.symm.trans hj) (hfresh _ hmem₂ rfl)
    · cases he₂
      exact absurd (hversion.trans hj) (hfresh _ hmem₁ rfl)
    · exact h.unique path' j₁ j₂ hmem₁ hmem₂ hversion

/-- A write of somebody else leaves the versions sound, and forgets none. -/
theorem Sound.changes (h : s.Sound) (hs : s.Changes s') : s'.Sound ∧ s.past ⊆ s'.past := by
  cases hs with
  | put hj hfresh => exact ⟨h.put hj hfresh, List.subset_cons_self ..⟩
  | delete path =>
    exact ⟨⟨fun path' j hget => h.held path' j (SortedMap.get?_of_get?_erase hget).2, h.versioned,
      h.unique⟩, List.Subset.refl _⟩

/-- So does an answer. -/
theorem Sound.answers (h : s.Sound) (hs : s.Answers request reply s') :
    s'.Sound ∧ s.past ⊆ s'.past := by
  cases hs with
  | held | missing | refuse => exact ⟨h, List.Subset.refl _⟩
  | accept _ ha =>
    obtain ⟨_, after, version, -, -, hversion, hfresh, -, rfl⟩ := ha
    exact ⟨h.put hversion hfresh, List.subset_cons_self ..⟩

/-! ### Reads and patches -/

/-- A read is answered with what is held. -/
theorem held_of_read {α : Type} {value? : Json → Option α} {a : α}
    (hs : s.Answers request reply s') (hverb : request.verb = .get)
    (hread : reply.read value? = .ok a) :
    s' = s ∧ ∃ j, s.objects.get? request.path = some j ∧ value? j = some a := by
  obtain ⟨hrefuses, status, text, j, rfl, hj, ha⟩ := ApiReply.read_eq_ok hread
  cases hs with
  | held _ hheld htext =>
    cases hj.symm.trans htext
    exact ⟨rfl, j, hheld, ha⟩
  | missing _ _ hreply => exact absurd hreply hrefuses
  | refuse hreply => exact absurd hreply hrefuses
  | accept hpatch => cases hverb.symm.trans hpatch

/-- A read that is answered so that the object is missing found none. -/
theorem none_of_read (hs : s.Answers request reply s') (hverb : request.verb = .get)
    (hmissing : reply.SaysMissing) (hreply : reply.Refuses) :
    s' = s ∧ s.objects.get? request.path = none := by
  cases hs with
  | held => exact absurd hreply (by unfold ApiReply.Refuses; omega)
  | missing _ hnone => exact ⟨rfl, hnone⟩
  | refuse _ hnot => exact absurd hmissing (hnot hverb)
  | accept hpatch => cases hverb.symm.trans hpatch

/-- A patch for the version that an object was once in is taken only if that is what is held. -/
theorem eq_of_accepts (h : s.Sound) {j held patch : Json} (hj : (path, j) ∈ s.past)
    (hheld : s.objects.get? path = some held)
    (hversion : (Json.patched patch held).version? = j.version?)
    (hcurrent : (Json.patched patch held).version? = none ∨
      (Json.patched patch held).version? = held.version?) : held = j := by
  refine h.unique path _ _ (h.held path held hheld) hj ?_
  rcases hcurrent with hnone | hsame
  · exact absurd (hversion.symm.trans hnone) (h.versioned path j hj)
  · exact hsame.symm.trans hversion

end ApiServer

/-! ## A program among others -/

/-- A request that was made: the server before it, the reply, and the server after it. -/
structure ApiTurn where
  before : ApiServer
  request : ApiRequest
  reply : ApiReply
  after : ApiServer

namespace ApiTurn

/-- What the program knows of a turn. -/
def exchange (t : ApiTurn) : Exchange ApiRequest fun _ => ApiReply := ⟨t.request, t.reply⟩

end ApiTurn

variable {α : Type} {p q : ApiProgram α} {s : ApiServer} {turns : List ApiTurn}

/-- A program and the server, after the program has taken these turns. Others may write before, after
and between them. -/
inductive Among (p : ApiProgram α) : ApiProgram α → ApiServer → List ApiTurn → Prop
  | start : Among p p {} []
  | change {q : ApiProgram α} {s s' : ApiServer} {turns : List ApiTurn} (h : Among p q s turns)
    (hs : s.Changes s') : Among p q s' turns
  | ask {request : ApiRequest} {next : ApiReply → ApiProgram α} {reply : ApiReply}
    {s s' : ApiServer} {turns : List ApiTurn} (h : Among p (.ask request next) s turns)
    (hs : s.Answers request reply s') : Among p (next reply) s' (turns ++ [⟨s, request, reply, s'⟩])

/-- What is known of a program among others. -/
structure Observed (p q : ApiProgram α) (s : ApiServer) (turns : List ApiTurn) : Prop where
  reaches : Reaches p (turns.map (·.exchange)) q
  sound : s.Sound
  answered : ∀ t ∈ turns, t.before.Sound ∧ t.before.Answers t.request t.reply t.after
  /-- Whatever was held at one turn is among what was ever held at a later one, and now. -/
  past : ∀ t ∈ turns, t.after.past ⊆ s.past
  later : turns.Pairwise fun t t' => t.after.past ⊆ t'.before.past

theorem observed_of_among (h : Among p q s turns) : Observed p q s turns := by
  induction h with
  | start => exact ⟨.here _, ⟨by rintro _ _ ⟨⟩, by rintro _ _ ⟨⟩, by rintro _ _ _ ⟨⟩⟩,
      by rintro _ ⟨⟩, by rintro _ ⟨⟩, .nil⟩
  | change _ hs ih =>
    obtain ⟨hsound, hpast⟩ := ih.sound.changes hs
    exact ⟨ih.reaches, hsound, ih.answered, fun t ht => List.Subset.trans (ih.past t ht) hpast, ih.later⟩
  | ask _ hs ih =>
    obtain ⟨hsound, hpast⟩ := ih.sound.answers hs
    refine ⟨?_, hsound, fun t ht => ?_, fun t ht => ?_, ?_⟩
    · rw [List.map_append]
      exact ih.reaches.snoc _
    · rcases List.mem_append.1 ht with ht | ht
      · exact ih.answered t ht
      · cases List.mem_singleton.1 ht
        exact ⟨ih.sound, hs⟩
    · rcases List.mem_append.1 ht with ht | ht
      · exact List.Subset.trans (ih.past t ht) hpast
      · cases List.mem_singleton.1 ht
        exact List.Subset.refl _
    · refine List.pairwise_append.2 ⟨ih.later, List.pairwise_singleton .., fun t ht t' ht' => ?_⟩
      cases List.mem_singleton.1 ht'
      exact ih.past t ht

/-- Every request that was made, the program had come to. -/
theorem Observed.asks {earlier later : List ApiTurn} {t : ApiTurn}
    (h : Observed p q s (earlier ++ t :: later)) :
    Asks p (earlier.map (·.exchange)) t.request := by
  have hreaches := h.reaches
  rw [List.map_append, List.map_cons] at hreaches
  obtain ⟨rest, a, hrun⟩ := hreaches.extends fun _ => .lost
  rw [List.append_assoc] at hrun
  exact hrun.asks

/-- What a read has found is known to the server when the next request is made. -/
theorem Observed.held_of_read {before later : List ApiTurn} {read t : ApiTurn} {β : Type}
    {value? : Json → Option β} {b : β} (h : Observed p q s (before ++ [read] ++ t :: later))
    (hverb : read.request.verb = .get) (hread : read.reply.read value? = .ok b) :
    ∃ j, read.before.objects.get? read.request.path = some j ∧ value? j = some b ∧
      j.version? ≠ none ∧ (read.request.path, j) ∈ t.before.past := by
  obtain ⟨hsound, hanswers⟩ := h.answered read (by simp)
  obtain ⟨hsame, j, hj, hb⟩ := ApiServer.held_of_read hanswers hverb hread
  have hpast := hsound.held _ j hj
  have hlater : read.after.past ⊆ t.before.past :=
    (List.pairwise_append.1 h.later).2.2 read (by simp) t (List.mem_cons_self ..)
  exact ⟨j, hj, hb, hsound.versioned _ j hpast, hlater (hsame ▸ hpast)⟩

/-! ### Runs with a server that answers whatever it can -/

namespace ApiServer

/-- A version that is longer than any before. -/
def unused (s : ApiServer) : String :=
  .ofList (List.replicate ((s.past.map fun b => (b.2.version?.getD "").length).sum + 1) 'v')

/-- What the server makes of an object that a patch came out as. -/
def stored (s : ApiServer) (j : Json) : Json :=
  Json.patched (.obj [("metadata", .obj [("resourceVersion", .str s.unused)])]) j

/-- What a patch of the object at a path leads to, if it is taken. -/
def merge? (s : ApiServer) (path : String) (patch : Json) : Option ApiServer := do
  let held ← s.objects.get? path
  let merged := Json.patched patch held
  guard (merged.version? = held.version?)
  return s.put path (s.stored merged)

/-- A server that answers whatever it can. -/
def answer (request : ApiRequest) (s : ApiServer) : ApiReply × ApiServer :=
  match request.verb with
  | .get =>
    match s.objects.get? request.path with
    | some j => (if Json.parse? j.render = some j then .answered 200 j.render else .lost, s)
    | none => (.answered 404
        "\x7b\"status\":\"Failure\",\"message\":\"\",\"reason\":\"NotFound\",\"code\":404\x7d", s)
  | .merge patch _ =>
    match s.merge? request.path patch with
    | some s' => (.answered 200 (((s'.objects.get? request.path).map Json.render).getD ""), s')
    | none => (.answered 409 "", s)
  | _ => (.lost, s)

theorem fresh_unused (s : ApiServer) (path : String) : s.Fresh path s.unused := by
  intro b hb _ he
  have hle : (b.2.version?.getD "").length ≤
      (s.past.map fun b => (b.2.version?.getD "").length).sum :=
    List.le_sum_of_mem (List.mem_map_of_mem hb)
  rw [he] at hle
  simp [unused] at hle

/-- What the server stores is in the new version, with the finalizers that came out. -/
theorem stored_spec (s : ApiServer) (j : Json) :
    (s.stored j).version? = some s.unused ∧ (s.stored j).finalizers = j.finalizers := by
  have hmetadata : (s.stored j).get? "metadata" = some (Json.patched
      (.obj [("resourceVersion", .str s.unused)]) ((j.get? "metadata").getD .null)) :=
    Json.get?_metadata_patched ..
  constructor
  · rw [Json.version?, hmetadata, Option.bind_some,
      Json.get?_patched (by simp) (List.mem_singleton_self _)]
    rfl
  · rw [Json.finalizers, hmetadata, Option.bind_some, Json.get?_patched_of_not_mem (by simp),
      Json.finalizers]
    cases j.get? "metadata" <;> rfl

theorem accepts_of_merge? {s s' : ApiServer} {path : String} {patch : Json}
    (h : s.merge? path patch = some s') : s.Accepts path patch s' := by
  obtain ⟨held, hheld, hmerged⟩ := Option.bind_eq_some_iff.1 h
  obtain ⟨_, hguard, hs'⟩ := Option.bind_eq_some_iff.1 hmerged
  cases hs'
  have hcurrent := (Option.guard_eq_some' _).1 hguard
  obtain ⟨hversion, hfinalizers⟩ := s.stored_spec (Json.patched patch held)
  exact ⟨held, _, _, hheld, .inr hcurrent, hversion, s.fresh_unused path, hfinalizers, rfl⟩

theorem answers_answer (s : ApiServer) (request : ApiRequest) :
    s.Answers request (answer request s).1 (answer request s).2 := by
  unfold answer
  split
  · rename_i hverb
    split
    · rename_i j hj
      split
      · rename_i htext
        exact .held hverb hj htext
      · exact .refuse trivial fun _ => by rintro ⟨_, _, _, ⟨⟩, -⟩
    · rename_i hnone
      exact .missing hverb hnone (by simp [ApiReply.Refuses])
  · rename_i hverb
    split
    · rename_i hmerge
      exact .accept hverb (accepts_of_merge? hmerge) _
    · exact .refuse (by simp [ApiReply.Refuses]) fun hget => by cases hverb.symm.trans hget
  · exact .refuse trivial fun _ => by rintro ⟨_, _, _, ⟨⟩, -⟩

end ApiServer

namespace Among

/-- What happens in a run with that server: somebody else writes, or the program goes on. -/
inductive Move where
  | change (path : String) (j : Json)
  | ask

/-- What a move makes of a program, the server and the turns. -/
def move (c : ApiProgram α × ApiServer × List ApiTurn) :
    Move → ApiProgram α × ApiServer × List ApiTurn
  | .change path j =>
    match j.version? with
    | some version => (c.1, if c.2.1.Fresh path version then c.2.1.put path j else c.2.1, c.2.2)
    | none => c
  | .ask =>
    match c.1 with
    | .done _ => c
    | .ask request next =>
      let (reply, s) := ApiServer.answer request c.2.1
      (next reply, s, c.2.2 ++ [⟨c.2.1, request, reply, s⟩])

/-- What some moves lead to. -/
def moves (p : ApiProgram α) (l : List Move) : ApiProgram α × ApiServer × List ApiTurn :=
  l.foldl move (p, {}, [])

theorem of_moves (p : ApiProgram α) (l : List Move) :
    Among p (moves p l).1 (moves p l).2.1 (moves p l).2.2 := by
  refine List.foldlRecOn
    (motive := fun c : ApiProgram α × ApiServer × List ApiTurn => Among p c.1 c.2.1 c.2.2)
    l _ .start fun c h m _ => ?_
  cases m with
  | change path j =>
    unfold move
    dsimp only
    split
    · rename_i hversion
      dsimp only
      split
      · rename_i hfresh
        exact h.change (.put hversion hfresh)
      · exact h
    · exact h
  | ask =>
    obtain ⟨q, s, turns⟩ := c
    cases q with
    | done => exact h
    | ask request next => exact h.ask (s.answers_answer request)

/-- Whether moves have brought a program to its end, and it, the server and the turns are as asked. -/
def finished (check : α → ApiServer → List ApiTurn → Bool) :
    ApiProgram α × ApiServer × List ApiTurn → Bool
  | (.done a, s, turns) => check a s turns
  | _ => false

theorem of_finished (check : α → ApiServer → List ApiTurn → Bool) (p : ApiProgram α)
    (l : List Move) (h : finished check (moves p l) = true) :
    ∃ a s turns, Among p (.done a) s turns ∧ check a s turns = true := by
  have hamong := of_moves p l
  generalize moves p l = c at h hamong
  obtain ⟨q, s, turns⟩ := c
  cases q with
  | done a => exact ⟨a, s, turns, hamong, h⟩
  | ask => cases h

end Among

end RelayFleet
