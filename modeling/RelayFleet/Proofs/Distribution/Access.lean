/-
Who may see what is distributed. The token of the service lets a request pass
(`authorized_of_presents`). A request that does not present it gets one reply, whatever is
distributed and to whom: it is told what is wrong with it, or that it is not authorized, and no
connection is opened for it (`shut_out`). So nobody learns from a reply which keys there are, or
what was published under one.
-/
import RelayFleet.Distribution.Host
import Mathlib.Data.String.Basic
import Mathlib.Tactic

namespace RelayFleet

/-! ## Credentials -/

/-- Whether a request presents a token: as the one in its query, or, where the query names none, in
its authorization header, behind the word for a bearer and in plain text. -/
def HttpRequest.Presents (r : HttpRequest) (token : String) : Prop :=
  match (Percent.pairs r.query).filter (·.1 == "token") with
  | [] => r.header? "authorization" = some ("Bearer " ++ token) ∧
      HttpRequest.isPlain ("Bearer " ++ token) = true
  | given => given.map (·.2) = [token]

/-- What a query says of the token is read from the one place where it names it. -/
theorem ConfigQuery.single?_of_ofText? {query : String} {q : ConfigQuery}
    (h : ofText? query = some q) : single? (Percent.pairs query) "token" = some q.token := by
  obtain ⟨given, hgiven, h⟩ := Option.bind_eq_some_iff.1 h
  obtain ⟨policy, -, h⟩ := Option.bind_eq_some_iff.1 h
  rw [hgiven]
  cases policy with
  | none => cases h; rfl
  | some policy =>
    obtain ⟨_, -, h⟩ := Option.bind_eq_some_iff.1 h
    cases h
    rfl

namespace DistributionService

variable {r : HttpRequest} {token : String} {q : ConfigQuery}

private theorem drop_bearer (cs : List Char) : ("Bearer ".toList ++ cs).drop 7 = cs :=
  @List.drop_left _ "Bearer ".toList cs

theorem bearer_eq_ok_iff : bearer r = .ok token ↔
    r.header? "authorization" = some ("Bearer " ++ token) ∧
      HttpRequest.isPlain ("Bearer " ++ token) = true := by
  unfold bearer
  cases r.header? "authorization" with
  | none => simp
  | some value =>
    simp only [Option.some.injEq]
    refine ⟨fun h => ?_, ?_⟩
    · split at h
      · next hvalue =>
        obtain ⟨rest, hrest⟩ := List.isPrefixOf_iff_prefix.1 hvalue.2
        have htoken : rest = token.toList := by
          rw [← Except.ok.inj h, String.toList_ofList, ← hrest, drop_bearer]
        have heq : value = "Bearer " ++ token :=
          String.toList_injective (by rw [String.toList_append, ← htoken, hrest])
        exact ⟨heq, heq ▸ hvalue.1⟩
      · cases h
    · rintro ⟨rfl, hplain⟩
      have hdrop : ("Bearer " ++ token).toList.drop 7 = token.toList := by
        rw [String.toList_append, drop_bearer]
      rw [if_pos ⟨hplain, by simp [String.toList_append]⟩, hdrop, String.ofList_toList]

/-- The token that a well-formed request presents is what its query or its header says. -/
theorem elim_bearer_eq_ok_iff (hq : ConfigQuery.ofText? r.query = some q) :
    q.token.elim (bearer r) .ok = .ok token ↔ r.Presents token := by
  have hsingle := ConfigQuery.single?_of_ofText? hq
  unfold ConfigQuery.single? at hsingle
  unfold HttpRequest.Presents
  split at hsingle <;> rename_i hgiven
  · rw [hgiven, ← Option.some.inj hsingle]
    exact bearer_eq_ok_iff
  · rw [hgiven, ← Option.some.inj hsingle]
    simp
  · cases hsingle

theorem required?_of_token {s : DistributionService} (hs : s.token = some token)
    (htoken : token ≠ "") : s.required? = some token := by
  simp [required?, hs, htoken]

/-- The token lets a request pass. -/
theorem authorized_of_presents {s : DistributionService} (hs : s.token = some token)
    (htoken : token ≠ "") (h : r.Presents token) (hq : ConfigQuery.ofText? r.query = some q)
    (reply : HttpReply) : s.authorized r q reply = reply := by
  simp only [authorized, authorize, required?_of_token hs htoken,
    (elim_bearer_eq_ok_iff hq).2 h, if_pos]

/-- A request is told why it does not pass, in the same words by every service with the token. -/
theorem authorized_of_not_presents (htoken : token ≠ "") (h : ¬ r.Presents token)
    (hq : ConfigQuery.ofText? r.query = some q) :
    ∃ message, ∀ (s : DistributionService) (reply : HttpReply), s.token = some token →
      s.authorized r q reply = .refusal 401 message := by
  cases hpresented : q.token.elim (bearer r) .ok with
  | error message =>
    refine ⟨message, fun s reply hs => ?_⟩
    simp only [authorized, authorize, required?_of_token hs htoken, hpresented]
  | ok presented =>
    have hne : presented ≠ token := by
      rintro rfl
      exact h ((elim_bearer_eq_ok_iff hq).1 hpresented)
    refine ⟨"invalid token", fun s reply hs => ?_⟩
    simp only [authorized, authorize, required?_of_token hs htoken, hpresented, if_neg hne]

end DistributionService

/-! ## Requests for what is distributed -/

namespace HttpEndpoint

private theorem splitOnAux_slash (s : String) (b i : String.Pos.Raw) (parts : List String) :
    s.splitOnAux "/" b i 0 parts = s.splitAux (· == '/') b i parts := by
  have hget : String.Pos.Raw.get "/" 0 = '/' := by decide
  have hnext : String.Pos.Raw.next "/" 0 = ⟨1⟩ := by decide
  have hend : String.Pos.Raw.atEnd "/" ⟨1⟩ = true := by decide
  fun_induction String.splitAux s (· == '/') b i parts with
  | case1 b i parts hi => rw [String.splitOnAux, if_pos hi]
  | case2 b i parts hi _ hslash i' ih =>
    have hback : (i.next s).unoffsetBy ⟨1⟩ = i := by
      rw [String.Pos.Raw.next, eq_of_beq hslash]
      rfl
    rw [String.splitOnAux, if_neg hi, hget, if_pos hslash, hnext, if_pos hend, hback, ih]
  | case3 b i parts hi _ hslash ih =>
    rw [String.splitOnAux, if_neg hi, hget, if_neg hslash]
    exact ih

/-- The parts of a path are the runs of its characters between slashes. -/
theorem splitOn_slash (path : String) :
    path.splitOn "/" = (path.toList.splitOnP (· == '/')).map String.ofList := by
  rw [String.splitOn, if_neg (by decide), splitOnAux_slash]
  exact String.splitToList_of_valid path _

theorem ofPath?_list : ofPath? "/api/v1/configs" = some list := by
  rw [ofPath?, splitOn_slash]
  rfl

end HttpEndpoint

/-- Whether a request is well formed for an endpoint that the token guards. -/
def HttpEndpoint.WellFormed (r : HttpRequest) (upgradable : Bool) : HttpEndpoint → Prop
  | .health => False
  | .list => (ConfigQuery.ofText? r.query).isSome
  | .config ns name => (key? ns name).isSome ∧ (ConfigQuery.ofText? r.query).isSome
  | .watch ns name => DistributionService.upgradeFlaw? r upgradable = none ∧
      (key? ns name).isSome ∧ (ConfigQuery.ofText? r.query).isSome

/-- Whether a request is a well-formed one for an endpoint that the token guards. -/
def HttpRequest.AsksForConfigs (r : HttpRequest) (upgradable : Bool) : Prop :=
  (r.method = "GET" ∨ r.method = "HEAD") ∧
    ∃ endpoint ∈ HttpEndpoint.ofPath? r.path, endpoint.WellFormed r upgradable

namespace DistributionService

variable {r : HttpRequest} {token : String}

/-- Whether a reply is the same of all services with a token, and says that a request is not
authorized if it was one that asks for something. -/
def Withholds (token : String) (reply : DistributionService → HttpReply) (asks : Prop) : Prop :=
  ∃ status body,
    (∀ s : DistributionService, s.token = some token → reply s = .plain status body) ∧
      (asks → status = 401)

/-- A reply that has nothing to do with the service, to a request that does not ask. -/
theorem withholds_const (status : Nat) (body : HttpBody) {asks : Prop} (h : ¬ asks) :
    Withholds token (fun _ => .plain status body) asks :=
  ⟨status, body, fun _ _ => rfl, fun hasks => absurd hasks h⟩

theorem withholds_authorized {q : ConfigQuery} (htoken : token ≠ "") (h : ¬ r.Presents token)
    (hq : ConfigQuery.ofText? r.query = some q) (reply : DistributionService → HttpReply)
    (asks : Prop) : Withholds token (fun s => s.authorized r q (reply s)) asks := by
  obtain ⟨message, hrefused⟩ := authorized_of_not_presents htoken h hq
  exact ⟨401, _, fun s hs => hrefused s _ hs, fun _ => rfl⟩

/-- What is kept under a key makes no difference to a reply about the key. -/
theorem withholds_keyed (htoken : token ≠ "") (h : ¬ r.Presents token) (key? : Option ObjectKey)
    (reply : DistributionService → ObjectKey → ConfigQuery → HttpReply) :
    Withholds token
      (fun s =>
        match key?, ConfigQuery.ofText? r.query with
        | some key, some q => s.authorized r q (reply s key q)
        | _, _ => .malformed)
      (key?.isSome ∧ (ConfigQuery.ofText? r.query).isSome) := by
  cases key? <;> cases hq : ConfigQuery.ofText? r.query
  case some.some key q => exact withholds_authorized htoken h hq (fun s => reply s key q) _
  all_goals exact withholds_const 400 .none (by simp)

theorem withholds_answerAt (htoken : token ≠ "") (h : ¬ r.Presents token) (upgradable : Bool)
    (endpoint : HttpEndpoint) :
    Withholds token (fun s => s.answerAt upgradable r endpoint)
      (endpoint.WellFormed r upgradable) := by
  cases endpoint with
  | health => exact withholds_const 200 (.text "ok") id
  | list =>
    simp only [answerAt, HttpEndpoint.WellFormed]
    cases hq : ConfigQuery.ofText? r.query with
    | none => exact withholds_const 400 .none (by simp)
    | some q => exact withholds_authorized htoken h hq listing _
  | config ns name =>
    exact withholds_keyed htoken h (HttpEndpoint.key? ns name) fun s key _ => s.document key
  | watch ns name =>
    simp only [answerAt, HttpEndpoint.WellFormed]
    cases upgradeFlaw? r upgradable with
    | some status => exact withholds_const status .none (by simp)
    | none =>
      simp only [true_and]
      exact withholds_keyed htoken h (HttpEndpoint.key? ns name) fun _ key q =>
        .upgrade key q.policy

theorem withholds_answer (htoken : token ≠ "") (h : ¬ r.Presents token) (upgradable : Bool) :
    Withholds token (fun s => s.answer upgradable r) (r.AsksForConfigs upgradable) := by
  simp only [answer, HttpRequest.AsksForConfigs]
  cases HttpEndpoint.ofPath? r.path with
  | none => exact withholds_const 404 .none (by simp)
  | some endpoint =>
    obtain ⟨status, body, hanswer, hstatus⟩ := withholds_answerAt htoken h upgradable endpoint
    simp only [Option.mem_some_iff, exists_eq_left']
    by_cases hget : r.method = "GET"
    · simp only [if_pos hget]
      exact ⟨status, body, hanswer, fun hr => hstatus hr.2⟩
    by_cases hhead : r.method = "HEAD"
    · simp only [if_neg hget, if_pos hhead]
      refine ⟨status, .none, fun s hs => ?_, fun hr => hstatus hr.2⟩
      dsimp only
      rw [show s.answerAt upgradable r endpoint = _ from hanswer s hs]
    · simp only [if_neg hget, if_neg hhead]
      exact withholds_const 405 .none (by simp [hget, hhead])

/-- A request that does not present the token of the service learns nothing and changes nothing: its
reply is the same whatever is distributed, it says that the request is not authorized if the request
is a well-formed one for a configuration, and a host that reads the request stays as it is. -/
theorem shut_out (htoken : token ≠ "") (h : ¬ r.Presents token) (upgradable : Bool) :
    ∃ status body,
      (∀ s : DistributionService, s.token = some token →
        s.answer upgradable r = .plain status body) ∧
      (∀ (host : DistributionHost) (name head : String), host.service.token = some token →
        RequestHead.read head = .ok ⟨r, upgradable⟩ → host.open? name head = (status, host)) ∧
      (r.AsksForConfigs upgradable → status = 401) := by
  obtain ⟨status, body, hanswer, hstatus⟩ := withholds_answer htoken h upgradable
  refine ⟨status, body, hanswer, fun host name head hhost hread => ?_, hstatus⟩
  rw [DistributionHost.open?, hread]
  dsimp only
  rw [show host.service.answer upgradable r = _ from hanswer _ hhost]

/-- A request for the keys with another token is not authorized, whichever keys there are. -/
theorem shut_out_with_another_token :
    let r : HttpRequest :=
      ⟨"GET", "/api/v1/configs", "", [("authorization", "Bearer nope")]⟩
    ∃ body, ∀ d : Distributor, answer ⟨d, some "secret"⟩ true r = .plain 401 body := by
  intro r
  have hquery : Percent.pairs r.query = [] := by
    rw [Percent.pairs, String.splitOn, if_neg (by decide), String.splitOnAux, if_pos (by decide)]
    rfl
  have hpresents : ¬ r.Presents "secret" := by
    rw [HttpRequest.Presents, hquery]
    exact fun h => absurd h.1 (by decide)
  have hasks : r.AsksForConfigs true := by
    refine ⟨.inl rfl, .list, HttpEndpoint.ofPath?_list, ?_⟩
    rw [HttpEndpoint.WellFormed, ConfigQuery.ofText?, hquery]
    rfl
  obtain ⟨status, body, hanswer, -, hstatus⟩ := shut_out (by decide) hpresents true
  exact ⟨body, fun d => hstatus hasks ▸ hanswer ⟨d, some "secret"⟩ rfl⟩

end DistributionService

end RelayFleet
