import TrackResolver.Proofs.Executor.Accounts
import TrackResolver.Proofs.Http.Limit
import TrackResolver.Proofs.Http.Search
import TrackResolver.Proofs.Registry.Standing

/-!
# What a request leaves behind

A request can be turned away in many places: before the routes, by the budget, at the path, by its
method, its type, its length, its text, or by the names in it. All of them come before any engine is
started. Engines are started by a request for a search that is answered by its outcome, and an engine
is asked by a request for a link that nobody has turned away.

Results:
* `route_cases`: the budget turns a request away, or the endpoint at its path answers.
* `deed_of_handle`: what a request that is answered has done.
* `leaves_of_handle`: what one request leaves on the accounts and on the clock.
* `traces_left`: what a sequence of requests leaves.
-/
namespace TrackResolver.Http

open Router

/-! ## Responses -/

/-- The code of the error that a response tells of. -/
def Response.code? (response : Response) : Option String :=
  match response.error? "code" with
  | some (.text code) => some code
  | _ => none

theorem Response.refuses_iff_code? {response : Response} {status : Nat} {code : String} :
    response.Refuses status code ↔ response.status = status ∧ response.code? = some code := by
  rw [Refuses, code?]
  refine and_congr_right fun _ => ?_
  split
  · next heq => rw [heq, Option.some.injEq, Json.Value.text.injEq, Option.some.injEq]
  · next hno => exact iff_of_false (hno code) (Option.some_ne_none code).symm

instance (response : Response) (status : Nat) (code : String) :
    Decidable (response.Refuses status code) :=
  decidable_of_iff _ Response.refuses_iff_code?.symm

/-- The response turns the request away before anything is done for it. -/
def Response.TurnsAway (response : Response) : Prop :=
  response.status ∈ [400, 405, 413, 415, 429, 503] ∨
    ∃ code ∈ ["INVALID_BODY", "EMPTY_ENGINE_LIST", "UNKNOWN_ENGINE"], response.Refuses 422 code

/-- The response tells the outcome of a search, if it answers a request for one. -/
def Response.TellsOutcome (response : Response) : Prop :=
  response.status = 200 ∨ response.Refuses 404 "NO_MATCH" ∨
    response.Refuses 502 "ALL_ENGINES_FAILED"

instance (response : Response) : Decidable response.TellsOutcome :=
  inferInstanceAs (Decidable (_ ∨ _ ∨ _))

/-- The response is that of the budget. -/
def Response.IsShedding (response : Response) : Prop :=
  response.status = 429 ∨ response.status = 503

instance (response : Response) : Decidable response.IsShedding :=
  inferInstanceAs (Decidable (_ ∨ _))

/-! ## What an exchange is about -/

/-- The endpoint to which a path leads. -/
def Router.endpointAt? (rt : Router) (path : List Char) : Option Endpoint :=
  if rt.budget.isSome then limitedEndpoint? path else endpoint? path

/-- The engines whose searches the exchange has started: those of a request for a search that was
answered by its outcome. -/
def Router.searched (rt : Router) (e : Exchange) : List String :=
  match e.request.decode SearchRequest.read with
  | .ok q =>
    if e.request.method = .post ∧ rt.endpointAt? e.request.path = some .search ∧
        e.response.TellsOutcome then
      rt.service.enginesFor q.engines
    else []
  | .error _ => []

/-- The engine that the exchange has asked for a link: the one that a result without a link names, if
there is such an engine and the budget let the request through. -/
def Router.asked (rt : Router) (e : Exchange) : List String :=
  match e.request.decode RetrieveRequest.read with
  | .ok q =>
    if e.request.method = .post ∧ rt.endpointAt? e.request.path = some .retrieve ∧
        ¬ e.response.IsShedding ∧ q.found.link = none ∧
        rt.service.executor.registry.contains q.found.source = true then
      [q.found.source]
    else []
  | .error _ => []

/-- The exchange is one that nothing comes of: the request is turned away, or asks for nothing that
an engine is needed for. -/
def Router.Spares (rt : Router) (e : Exchange) : Prop :=
  e.response.TurnsAway ∨ e.request.method = .options ∨
    rt.endpointAt? e.request.path ∈ [none, some .health, some .engines]

/-- The accounts of an engine. -/
def Router.tally (rt : Router) (engine : String) : Tally := rt.service.executor.ledger.tally engine

section
variable {rt : Router} {e : Exchange}

theorem searched_of_decode {q : SearchRequest}
    (hq : e.request.decode SearchRequest.read = .ok q) (hm : e.request.method = .post)
    (hp : rt.endpointAt? e.request.path = some .search) (ho : e.response.TellsOutcome) :
    rt.searched e = rt.service.enginesFor q.engines := by
  simp only [searched, hq]
  exact if_pos ⟨hm, hp, ho⟩

theorem searched_eq_nil (h : ∀ q, e.request.decode SearchRequest.read = .ok q →
    e.request.method = .post → rt.endpointAt? e.request.path = some .search →
    ¬ e.response.TellsOutcome) : rt.searched e = [] := by
  unfold searched
  split
  · next q hq => exact if_neg fun ⟨hm, hp, ho⟩ => h q hq hm hp ho
  · rfl

theorem asked_of_decode {q : RetrieveRequest}
    (hq : e.request.decode RetrieveRequest.read = .ok q) (hm : e.request.method = .post)
    (hp : rt.endpointAt? e.request.path = some .retrieve) (hb : ¬ e.response.IsShedding)
    (hl : q.found.link = none)
    (hc : rt.service.executor.registry.contains q.found.source = true) :
    rt.asked e = [q.found.source] := by
  simp only [asked, hq]
  exact if_pos ⟨hm, hp, hb, hl, hc⟩

theorem asked_eq_nil (h : ∀ q, e.request.decode RetrieveRequest.read = .ok q →
    e.request.method = .post → rt.endpointAt? e.request.path = some .retrieve →
    ¬ e.response.IsShedding → q.found.link = none →
    rt.service.executor.registry.contains q.found.source = false) : rt.asked e = [] := by
  unfold asked
  split
  · next q hq =>
    refine if_neg fun ⟨hm, hp, hb, hl, hc⟩ => ?_
    rw [h q hq hm hp hb hl] at hc
    cases hc
  · rfl

end

/-! ## One request -/

/-- The budget turns a request away, or the endpoint at its path answers it. -/
theorem route_cases (rt : Router) (now : Instant) (r : Request) :
    (∃ why : ApiFault, (rt.route now r).1 = refused rt.service why ∧
      (shared why.response).IsShedding) ∨
    (rt.route now r).1 = dispatch (rt.endpointAt? r.path) rt.service r := by
  cases hb : rt.budget with
  | none => right; simp only [route, hb, endpointAt?]; rfl
  | some budget =>
    cases hp : limitedPath? r.path with
    | none => right; simp only [route, hb, hp, endpointAt?, limitedEndpoint?]; rfl
    | some below =>
      cases hv : (budget.request now).1 with
      | admitted =>
        right
        simp only [route, hb, hp, hv, endpointAt?, limitedEndpoint?, Verdict.fault?]
        rfl
      | shed =>
        exact .inl ⟨.rateLimited, by simp only [route, hb, hp, hv, Verdict.fault?], .inl rfl⟩
      | broken =>
        exact .inl ⟨.unavailable "buffer's worker closed unexpectedly",
          by simp only [route, hb, hp, hv, Verdict.fault?], .inr rfl⟩

/-- What an exchange has done, and the service that it leaves. -/
inductive Router.Does (rt : Router) (e : Exchange) : Service → Prop
  /-- Nothing, in no time. -/
  | idle (ht : e.elapsed = .zero) (hs : rt.searched e = []) (ha : rt.asked e = []) :
    rt.Does e rt.service
  /-- It has started the engines of a line-up and entered what became of them. -/
  | search {lineup : List Entry} (song : Song) (c : Context) (hs : ¬ rt.Spares e)
    (hl : rt.service.executor.registry.lineup (rt.searched e) = .ok lineup)
    (ha : rt.asked e = []) :
    rt.Does e { rt.service with executor := { rt.service.executor with
      ledger := rt.service.executor.ledger.enterSearch e.elapsed (launch lineup song c) } }
  /-- It has asked an engine for a link, in no time. -/
  | ask {engine : String} (hspares : ¬ rt.Spares e) (ht : e.elapsed = .zero)
    (hs : rt.searched e = []) (ha : rt.asked e = [engine]) :
    rt.Does e { rt.service with executor := { rt.service.executor with
      ledger := rt.service.executor.ledger.enterRetrieval engine } }

section
variable {rt : Router} {e : Exchange}

theorem not_tellsOutcome_of_isShedding {response : Response} (h : response.IsShedding) :
    ¬ response.TellsOutcome := by
  rintro (ho | ⟨ho, -⟩ | ⟨ho, -⟩) <;> rcases h with h | h <;> rw [h] at ho <;> cases ho

/-- What is at no endpoint for engines does nothing. -/
theorem Router.Does.of_endpoint (ht : e.elapsed = .zero)
    (hs : rt.endpointAt? e.request.path ≠ some .search)
    (ha : rt.endpointAt? e.request.path ≠ some .retrieve) : rt.Does e rt.service :=
  .idle ht (searched_eq_nil fun _ _ _ hp => absurd hp hs)
    (asked_eq_nil fun _ _ _ hp => absurd hp ha)

theorem Router.Does.of_method (ht : e.elapsed = .zero) (hm : e.request.method ≠ .post) :
    rt.Does e rt.service :=
  .idle ht (searched_eq_nil fun _ _ h => absurd h hm) (asked_eq_nil fun _ _ h => absurd h hm)

theorem Router.Does.of_isShedding (ht : e.elapsed = .zero) (hb : e.response.IsShedding) :
    rt.Does e rt.service :=
  .idle ht (searched_eq_nil fun _ _ _ _ => not_tellsOutcome_of_isShedding hb)
    (asked_eq_nil fun _ _ _ _ h => absurd hb h)

theorem not_turnsAway_of_tellsOutcome {response : Response} (h : response.TellsOutcome) :
    ¬ response.TurnsAway := by
  rintro (hlist | ⟨code, -, hstatus, -⟩)
  · rcases h with h | ⟨h, -⟩ | ⟨h, -⟩ <;> rw [h] at hlist <;> revert hlist <;> decide
  · rcases h with h | ⟨h, -⟩ | ⟨h, -⟩ <;> rw [h] at hstatus <;> cases hstatus

theorem not_turnsAway_engineFailed (engine : String) (why : EngineError) :
    ¬ (shared (ApiFault.call (.engineFailed engine why)).response).TurnsAway := by
  simp only [Response.TurnsAway, refuses_iff]
  cases why <;> simp [shared, Response.withHeader, ApiFault.response, ApiFault.status,
    ApiFault.kind, Response.json]

theorem not_spares {p : Endpoint} (hm : e.request.method = .post)
    (hp : rt.endpointAt? e.request.path = some p) (he : p.isRead = false)
    (h : ¬ e.response.TurnsAway) : ¬ rt.Spares e := by
  rintro (hturn | hoptions | hpath)
  · exact h hturn
  · rw [hm] at hoptions; cases hoptions
  · rw [hp] at hpath
    cases p with
    | health | engines => cases he
    | search | retrieve => simp at hpath

theorem not_tellsOutcome_of_status {response : Response} (h : response.status = 422) :
    ¬ response.TellsOutcome := by
  rintro (ho | ⟨ho, -⟩ | ⟨ho, -⟩) <;> rw [h] at ho <;> cases ho

theorem tellsOutcome_allFailed (report : FailureReport) :
    (shared (ApiFault.call (.allFailed report)).response).TellsOutcome := by
  rw [Response.TellsOutcome, refuses_iff, refuses_iff, kind_allFailed]
  split
  · exact .inr (.inl rfl)
  · exact .inr (.inr rfl)

theorem status_of_refused {r : Registry} {names : List String} {why : CallError}
    (hl : r.lineup names = .error why) : (ApiFault.call why).status = 422 := by
  rcases r.lineup_cases names with ⟨-, h⟩ | ⟨-, -, wrong, reason, h⟩ | ⟨-, -, -, lineup, h⟩ <;>
    cases hl.symm.trans h <;> rfl

/-- The names of a search are refused, and nothing is done, or its engines are started and its outcome
is told. -/
theorem refused_or_searched {s : Service} {q : SearchRequest} {served : Served}
    (h : s.search q = some served) :
    (¬ (shared served.response).TellsOutcome ∧ served.elapsed = .zero ∧ served.after = s) ∨
    ((shared served.response).TellsOutcome ∧ ∃ lineup,
      s.executor.registry.lineup (s.enginesFor q.engines) = .ok lineup ∧
      served.after = { s with executor := { s.executor with
        ledger := s.executor.ledger.enterSearch served.elapsed
          (launch lineup q.song (s.contextFor q.context)) } }) := by
  cases hl : s.executor.registry.lineup (s.enginesFor q.engines) with
  | error why =>
    rw [search_of_refused hl, Option.some.injEq] at h
    subst h
    exact .inl ⟨not_tellsOutcome_of_status (status_of_refused hl), rfl, rfl⟩
  | ok lineup =>
    obtain ⟨call, hcall, helapsed, hafter, hresponse⟩ := search_served h
    rw [search_of_lineup hl] at hcall
    obtain ⟨⟨time, closing⟩, hclose, rfl⟩ := Option.map_eq_some_iff.1 hcall
    rw [helapsed, hafter]
    refine .inr ⟨?_, lineup, rfl, rfl⟩
    obtain ⟨f, -, hresponse⟩ | ⟨why, hwhy, hresponse⟩ := hresponse
    · rw [hresponse]
      exact .inl rfl
    · rw [hresponse]
      -- a search that is not refused at the start is refused by all of its engines
      cases closing with
      | abandoned => cases hwhy
      | settled result =>
        cases result with
        | ok f => cases hwhy
        | error report =>
          cases hwhy
          exact tellsOutcome_allFailed report

/-- A request for a search. -/
theorem does_search {served : Served} (hm : e.request.method = .post)
    (hp : rt.endpointAt? e.request.path = some .search)
    (h : Endpoint.serve .search rt.service e.request = some served)
    (hresponse : e.response = shared served.response) (ht : e.elapsed = served.elapsed) :
    rt.Does e served.after := by
  have hask : rt.asked e = [] := asked_eq_nil fun _ _ _ hother => by rw [hp] at hother; cases hother
  rw [Endpoint.serve] at h
  cases hq : e.request.decode SearchRequest.read with
  | error why =>
    rw [hq] at h
    cases h
    exact .idle ht (searched_eq_nil fun q hok => by rw [hq] at hok; cases hok) hask
  | ok q =>
    rw [hq] at h
    rcases refused_or_searched h with ⟨hno, helapsed, hafter⟩ | ⟨ho, lineup, hl, hafter⟩
    · rw [hafter]
      exact .idle (ht.trans helapsed) (searched_eq_nil fun _ _ _ _ => hresponse ▸ hno) hask
    · rw [← hresponse] at ho
      rw [hafter, ← ht]
      refine .search q.song _ (not_spares hm hp rfl (not_turnsAway_of_tellsOutcome ho)) ?_ hask
      rw [searched_of_decode hq hm hp ho, hl]

section
variable {s : Service} {q : RetrieveRequest}

/-- A result with a link, and one of an engine that is not there, leave the service as it is. -/
theorem after_retrieve_unasked
    (h : q.found.link = none → s.executor.registry.get? q.found.source = none) :
    (s.retrieve q).after = s := by
  have hafter : (s.executor.retrieve q.found (s.contextFor q.context)).after = s.executor := by
    cases hl : q.found.link with
    | some p => rw [Executor.retrieve_of_link _ hl]
    | none => simp only [Executor.retrieve, Registry.retrieve, hl, h hl]
  rw [Service.retrieve, hafter]

variable {engine : Engine} (hl : q.found.link = none)
  (he : s.executor.registry.get? q.found.source = some engine)
include hl he

theorem after_retrieve_asked : (s.retrieve q).after = { s with executor := { s.executor with
    ledger := s.executor.ledger.enterRetrieval q.found.source } } := by
  simp only [Service.retrieve, Executor.retrieve, Executor.retrieve_of_get? hl he]

/-- What an engine answers is no refusal of the service. -/
theorem response_retrieve_asked : ¬ (shared (s.retrieve q).response).TurnsAway ∧
    ¬ (shared (s.retrieve q).response).IsShedding := by
  rw [Service.retrieve, Executor.answer_of_get? hl he (s.contextFor q.context)]
  cases engine.retrieve q.found ((s.contextFor q.context).view q.found.source) with
  | ok p => exact ⟨not_turnsAway_of_tellsOutcome (.inl rfl), by rintro (h | h) <;> cases h⟩
  | error why =>
    refine ⟨not_turnsAway_engineFailed _ why, ?_⟩
    rintro (h | h) <;> cases why <;> cases h

end

/-- A request for a link. -/
theorem does_retrieve {served : Served} (hr : rt.service.executor.registry.Reachable)
    (hm : e.request.method = .post) (hp : rt.endpointAt? e.request.path = some .retrieve)
    (h : Endpoint.serve .retrieve rt.service e.request = some served)
    (hresponse : e.response = shared served.response) (ht : e.elapsed = served.elapsed) :
    rt.Does e served.after := by
  have hsearch : rt.searched e = [] :=
    searched_eq_nil fun _ _ _ hother => by rw [hp] at hother; cases hother
  rw [Endpoint.serve] at h
  cases hq : e.request.decode RetrieveRequest.read with
  | error why =>
    rw [hq] at h
    cases h
    exact .idle ht hsearch (asked_eq_nil fun q hok => by rw [hq] at hok; cases hok)
  | ok q =>
    rw [hq] at h
    cases h
    by_cases hask : ∃ engine, q.found.link = none ∧
        rt.service.executor.registry.get? q.found.source = some engine
    · obtain ⟨engine, hl, he⟩ := hask
      obtain ⟨hopen, hthrough⟩ := response_retrieve_asked hl he
      rw [← hresponse] at hopen hthrough
      rw [after_retrieve_asked hl he]
      exact .ask (not_spares hm hp rfl hopen) ht hsearch
        (asked_of_decode hq hm hp hthrough hl (Registry.contains_of_get? he))
    · have hno : q.found.link = none →
          rt.service.executor.registry.get? q.found.source = none := fun hl =>
        Option.eq_none_iff_forall_ne_some.2 fun engine he => hask ⟨engine, hl, he⟩
      rw [after_retrieve_unasked hno]
      refine .idle ht hsearch (asked_eq_nil fun q' hq' _ _ _ hl => ?_)
      cases hq.symm.trans hq'
      rw [(Registry.wellFormed_of_reachable hr).contains_eq, hno hl]
      rfl

/-- The health of the service and the list of its engines are read off it. -/
theorem handle_of_isRead {s : Service} {r : Request} {p : Endpoint} {served : Served}
    (he : p.isRead = true) (h : p.handle s r = some served) :
    served.elapsed = .zero ∧ served.after = s := by
  have hserve : ∀ whole, p.serve s r = some whole → whole.elapsed = .zero ∧ whole.after = s := by
    intro whole hwhole
    cases p with
    | health | engines => cases hwhole; exact ⟨rfl, rfl⟩
    | search | retrieve => cases he
  rw [Endpoint.handle] at h
  by_cases hm : r.method = (if p.isRead then .get else .post)
  · rw [if_pos hm] at h
    exact hserve _ h
  rw [if_neg hm] at h
  by_cases hh : p.isRead ∧ r.method = .head
  · rw [if_pos hh] at h
    obtain ⟨whole, hwhole, rfl⟩ := Option.map_eq_some_iff.1 h
    exact hserve whole hwhole
  · rw [if_neg hh] at h
    cases h
    exact ⟨rfl, rfl⟩

/-- An endpoint for engines that is not asked with POST does nothing. -/
theorem handle_of_not_post {s : Service} {r : Request} {p : Endpoint} {served : Served}
    (he : p.isRead = false) (hm : r.method ≠ .post) (h : p.handle s r = some served) :
    served.elapsed = .zero ∧ served.after = s := by
  rw [Endpoint.handle, if_neg (by simpa [he] using hm), if_neg (by simp [he])] at h
  cases h
  exact ⟨rfl, rfl⟩

theorem exists_served_of_handle {now : Instant} {r : Request} {response : Response}
    {elapsed : Duration} {rt' : Router} (ho : r.method ≠ .options)
    (h : rt.handle now r = some (response, elapsed, rt')) :
    ∃ served, (rt.route now r).1 = some served ∧ response = shared served.response ∧
      elapsed = served.elapsed ∧ rt' = ⟨served.after, (rt.route now r).2⟩ := by
  rw [Router.handle, if_neg ho] at h
  generalize rt.route now r = routed at h ⊢
  obtain ⟨answer, budget⟩ := routed
  obtain ⟨served, hserved, heq⟩ := Option.map_eq_some_iff.1 h
  cases heq
  exact ⟨served, hserved, rfl, rfl, rfl⟩

/-- What a request that is answered has done. -/
theorem deed_of_handle {rt' : Router} (hr : rt.service.executor.registry.Reachable)
    (h : rt.handle e.now e.request = some (e.response, e.elapsed, rt')) :
    rt.Does e rt'.service := by
  by_cases ho : e.request.method = .options
  · rw [Router.handle, if_pos ho, Option.some.injEq, Prod.mk.injEq, Prod.mk.injEq] at h
    obtain ⟨-, ht, rfl⟩ := h
    exact .of_method ht.symm (by rw [ho]; decide)
  obtain ⟨served, hserved, hresponse, ht, rfl⟩ := exists_served_of_handle ho h
  dsimp only
  rcases route_cases rt e.now e.request with ⟨why, hroute, hshed⟩ | hroute
  · rw [hroute] at hserved
    cases hserved
    exact .of_isShedding ht (hresponse ▸ hshed)
  rw [hroute] at hserved
  cases hp : rt.endpointAt? e.request.path with
  | none =>
    rw [hp] at hserved
    cases hserved
    have hne : ∀ q, rt.endpointAt? e.request.path ≠ some q := fun q => hp ▸ (Option.some_ne_none q).symm
    exact .of_endpoint ht (hne _) (hne _)
  | some p =>
    rw [hp] at hserved
    have hhandle : p.handle rt.service e.request = some served := hserved
    cases he : p.isRead with
    | true =>
      obtain ⟨hzero, hsame⟩ := handle_of_isRead he hhandle
      rw [hsame]
      have hne : ∀ q : Endpoint, q.isRead = false → rt.endpointAt? e.request.path ≠ some q := by
        rintro q hq heq
        rw [hp, Option.some.injEq] at heq
        rw [heq, hq] at he
        cases he
      exact .of_endpoint (ht.trans hzero) (hne _ rfl) (hne _ rfl)
    | false =>
      by_cases hm : e.request.method = .post
      · rw [dispatch_post he hm] at hserved
        cases p with
        | health | engines => cases he
        | search => exact does_search hm hp hserved hresponse ht
        | retrieve => exact does_retrieve hr hm hp hserved hresponse ht
      · obtain ⟨hzero, hsame⟩ := handle_of_not_post he hm hhandle
        rw [hsame]
        exact .of_method (ht.trans hzero) hm

end

/-! ## Accounts and clock -/

/-- What the exchange leaves on the accounts and on the clock. -/
structure Router.Leaves (rt : Router) (e : Exchange) (rt' : Router) : Prop where
  /-- A request that is turned away, and one for which no engine is needed, leaves nothing. -/
  spared : rt.Spares e → rt'.service = rt.service ∧ e.elapsed = .zero
  /-- Only a search takes time. -/
  quick : rt.searched e = [] → e.elapsed = .zero
  once : (rt.searched e).Nodup
  others : ∀ engine, engine ∉ rt.searched e → engine ∉ rt.asked e →
    rt'.tally engine = rt.tally engine
  searches : ∀ engine,
    (rt'.tally engine).searches = (rt.tally engine).searches + (rt.searched e).count engine
  retrieves : ∀ engine,
    (rt'.tally engine).retrieves = (rt.tally engine).retrieves + (rt.asked e).count engine

section
variable {rt rt' : Router} {e : Exchange}

theorem Router.Leaves.of_idle (hs : rt'.service = rt.service) (ht : e.elapsed = .zero)
    (hsearched : rt.searched e = []) (hasked : rt.asked e = []) : rt.Leaves e rt' := by
  have htally : ∀ engine, rt'.tally engine = rt.tally engine :=
    fun engine => by rw [Router.tally, hs, Router.tally]
  refine ⟨fun _ => ⟨hs, ht⟩, fun _ => ht, by rw [hsearched]; exact .nil,
    fun engine _ _ => htally engine, fun engine => ?_, fun engine => ?_⟩
  · rw [htally, hsearched]; rfl
  · rw [htally, hasked]; rfl

theorem Router.Leaves.of_search {lineup : List Entry} {song : Song} {c : Context}
    (hr : rt.service.executor.registry.Reachable) (hspares : ¬ rt.Spares e)
    (hl : rt.service.executor.registry.lineup (rt.searched e) = .ok lineup) (hasked : rt.asked e = [])
    (hledger : rt'.service.executor.ledger =
      rt.service.executor.ledger.enterSearch e.elapsed (launch lineup song c)) : rt.Leaves e rt' := by
  obtain ⟨hne, hnodup, -, -⟩ :=
    (Registry.lineup_eq_ok_iff (Registry.wellFormed_of_reachable hr)).1 hl
  have hengines := launch_engines hr hl song c
  have hcounts : ∀ engine, (rt'.tally engine).searches =
        (rt.tally engine).searches + (rt.searched e).count engine ∧
      (rt'.tally engine).retrieves = (rt.tally engine).retrieves := by
    intro engine
    rw [Router.tally, hledger, ← hengines]
    exact counts_enterSearch _ _ _ engine
  have hout : ∀ engine ∉ rt.searched e, rt'.tally engine = rt.tally engine := by
    intro engine hmem
    rw [Router.tally, hledger]
    exact tally_enterSearch_of_notMem (by rw [hengines]; exact hmem)
  refine ⟨fun h => absurd h hspares, fun h => absurd h hne, hnodup, fun engine h _ => hout engine h,
    fun engine => (hcounts engine).1, fun engine => ?_⟩
  rw [hasked]
  exact (hcounts engine).2

theorem Router.Leaves.of_ask {name : String} (hspares : ¬ rt.Spares e) (ht : e.elapsed = .zero)
    (hsearched : rt.searched e = []) (hasked : rt.asked e = [name])
    (hledger : rt'.service.executor.ledger = rt.service.executor.ledger.enterRetrieval name) :
    rt.Leaves e rt' := by
  have hone : ∀ engine, rt'.tally engine =
      if engine = name then (rt.tally name).retrieved else rt.tally engine := by
    intro engine
    rw [Router.tally, hledger]
    exact Executor.tally_enterRetrieval _ _ _
  refine ⟨fun h => absurd h hspares, fun _ => ht, by rw [hsearched]; exact .nil, ?_, ?_, ?_⟩
  · intro engine _ hmem
    rw [hasked, List.mem_singleton] at hmem
    rw [hone, if_neg hmem]
  · intro engine
    rw [hone, hsearched]
    split
    · next heq => rw [heq]; rfl
    · rfl
  · intro engine
    rw [hone, hasked]
    split
    · next heq => rw [heq, List.count_singleton_self]; rfl
    · next hne => rw [List.count_eq_zero_of_not_mem (by simpa using hne)]; rfl

theorem leaves_of_does (hr : rt.service.executor.registry.Reachable)
    (h : rt.Does e rt'.service) : rt.Leaves e rt' := by
  generalize hs : rt'.service = s at h
  cases h with
  | idle ht hsearched hasked => exact .of_idle hs ht hsearched hasked
  | search song c hspares hl hasked => exact .of_search hr hspares hl hasked (by rw [hs])
  | ask hspares ht hsearched hasked => exact .of_ask hspares ht hsearched hasked (by rw [hs])

/-- What one request leaves on the accounts and on the clock. -/
theorem leaves_of_handle (hr : rt.service.executor.registry.Reachable)
    (h : rt.handle e.now e.request = some (e.response, e.elapsed, rt')) : rt.Leaves e rt' :=
  leaves_of_does hr (deed_of_handle hr h)

end

/-! ## One request after another -/

/-- The router has become another that leads requests to the same endpoints and engines. -/
structure Router.Remains (rt rt' : Router) : Prop where
  limited : rt'.budget.isSome = rt.budget.isSome
  registry : rt'.service.executor.registry = rt.service.executor.registry
  engines : rt'.service.engines = rt.service.engines

namespace Router.Remains

variable {rt rt' rt'' : Router}

theorem refl (rt : Router) : rt.Remains rt := ⟨rfl, rfl, rfl⟩

theorem trans (h : rt.Remains rt') (h' : rt'.Remains rt'') : rt.Remains rt'' where
  limited := h'.limited.trans h.limited
  registry := h'.registry.trans h.registry
  engines := h'.engines.trans h.engines

theorem endpointAt? (h : rt.Remains rt') (path : List Char) :
    rt'.endpointAt? path = rt.endpointAt? path := by
  rw [Router.endpointAt?, Router.endpointAt?, h.limited]

theorem searched (h : rt.Remains rt') (e : Exchange) : rt'.searched e = rt.searched e := by
  have hnames : rt'.service.enginesFor = rt.service.enginesFor := by
    funext requested
    simp only [Service.enginesFor, h.engines, h.registry]
  simp only [Router.searched, h.endpointAt?, hnames]

theorem asked (h : rt.Remains rt') (e : Exchange) : rt'.asked e = rt.asked e := by
  simp only [Router.asked, h.endpointAt?, h.registry]

end Router.Remains

theorem isSome_budget_route (rt : Router) (now : Instant) (r : Request) :
    (rt.route now r).2.isSome = rt.budget.isSome := by
  unfold route
  split
  · next hb _ =>
    dsimp only
    split <;> rw [hb] <;> rfl
  · rfl

theorem remains_of_handle {rt rt' : Router} {e : Exchange}
    (hr : rt.service.executor.registry.Reachable)
    (h : rt.handle e.now e.request = some (e.response, e.elapsed, rt')) : rt.Remains rt' := by
  have hservice : rt'.service.executor.registry = rt.service.executor.registry ∧
      rt'.service.engines = rt.service.engines := by
    have hdeed := deed_of_handle hr h
    generalize rt'.service = s at hdeed
    cases hdeed <;> exact ⟨rfl, rfl⟩
  refine ⟨?_, hservice.1, hservice.2⟩
  by_cases ho : e.request.method = .options
  · rw [Router.handle, if_pos ho, Option.some.injEq, Prod.mk.injEq, Prod.mk.injEq] at h
    rw [← h.2.2]
  · obtain ⟨served, -, -, -, rfl⟩ := exists_served_of_handle ho h
    exact isSome_budget_route rt e.now e.request

/-- Each request of a sequence finds a router that has remained, and leaves its traces on it. -/
theorem Router.Handles.leaves {rt last : Router} {es : List Exchange}
    (hr : rt.service.executor.registry.Reachable) (h : rt.Handles es last) :
    rt.Remains last ∧ ∀ before e after, es = before ++ e :: after →
      ∃ mid mid', rt.Handles before mid ∧ rt.Remains mid ∧
        mid.handle e.now e.request = some (e.response, e.elapsed, mid') ∧
        mid'.Handles after last ∧ mid.Leaves e mid' := by
  induction h with
  | nil => exact ⟨.refl _, fun before e after heq => by simp at heq⟩
  | @cons rt rt' last first rest hfirst hrest ih =>
    have hremains := remains_of_handle hr hfirst
    obtain ⟨hlast, hsplit⟩ := ih (by rw [hremains.registry]; exact hr)
    refine ⟨hremains.trans hlast, fun before e after heq => ?_⟩
    cases before with
    | nil =>
      cases heq
      exact ⟨rt, rt', .nil, .refl rt, hfirst, hrest, leaves_of_handle hr hfirst⟩
    | cons _ before =>
      cases heq
      obtain ⟨mid, mid', hbefore, hmid, hstep⟩ := hsplit before e after rfl
      exact ⟨mid, mid', .cons hfirst hbefore, hremains.trans hmid, hstep⟩

/-- The accounts after a sequence of requests. -/
theorem Router.Handles.tally {rt last : Router} {es : List Exchange}
    (hr : rt.service.executor.registry.Reachable) (h : rt.Handles es last) (engine : String) :
    (last.tally engine).searches =
      (rt.tally engine).searches + (es.flatMap rt.searched).count engine ∧
    (last.tally engine).retrieves =
      (rt.tally engine).retrieves + (es.flatMap rt.asked).count engine := by
  induction h with
  | nil => exact ⟨rfl, rfl⟩
  | @cons rt rt' last first rest hfirst hrest ih =>
    have hremains := remains_of_handle hr hfirst
    have hleaves := leaves_of_handle hr hfirst
    obtain ⟨hsearches, hretrieves⟩ := ih (by rw [hremains.registry]; exact hr)
    have hsearched : rest.flatMap rt'.searched = rest.flatMap rt.searched :=
      congrArg (List.flatMap · rest) (funext hremains.searched)
    have hasked : rest.flatMap rt'.asked = rest.flatMap rt.asked :=
      congrArg (List.flatMap · rest) (funext hremains.asked)
    rw [hsearched, hleaves.searches engine] at hsearches
    rw [hasked, hleaves.retrieves engine] at hretrieves
    rw [List.flatMap_cons, List.count_append, List.flatMap_cons, List.count_append]
    exact ⟨by omega, by omega⟩

/-- A search of a service that has no answer has started and stays pending. -/
theorem staysPending_of_search {s : Service} {q : SearchRequest} (h : s.search q = none) :
    ∃ lineup, s.executor.registry.lineup (s.enginesFor q.engines) = .ok lineup ∧
      StaysPending s.executor (s.enginesFor q.engines) q.song (s.contextFor q.context) := by
  rw [Service.search] at h
  rcases hl : s.executor.registry.lineup (s.enginesFor q.engines) with why | lineup
  · rw [Executor.search, hl] at h
    cases h
  refine ⟨lineup, rfl, ?_⟩
  cases hs : settle (s.contextFor q.context).mode
      (launch lineup q.song (s.contextFor q.context)) with
  | pending => exact staysPending_of_settle hl hs
  | settled time result =>
    rw [search_settled hl hs (awaits_none time)] at h
    cases result <;> cases h

/-- Only a search can leave a request without an answer. -/
theorem eq_search_of_serve {s : Service} {r : Request} {p : Endpoint} (h : p.serve s r = none) :
    p = .search ∧ ∃ q, r.decode SearchRequest.read = .ok q ∧ s.search q = none := by
  cases p with
  | health | engines => cases h
  | retrieve =>
    rw [Endpoint.serve] at h
    split at h <;> cases h
  | search =>
    rw [Endpoint.serve] at h
    split at h
    · next q hq => exact ⟨rfl, q, hq, h⟩
    · cases h

theorem eq_search_of_endpoint {s : Service} {r : Request} {p : Endpoint} (h : p.handle s r = none) :
    p = .search ∧ r.method = .post ∧
      ∃ q, r.decode SearchRequest.read = .ok q ∧ s.search q = none := by
  rw [Endpoint.handle] at h
  by_cases hm : r.method = (if p.isRead then .get else .post)
  · rw [if_pos hm] at h
    obtain ⟨rfl, hq⟩ := eq_search_of_serve h
    exact ⟨rfl, hm, hq⟩
  rw [if_neg hm] at h
  by_cases hh : p.isRead ∧ r.method = .head
  · rw [if_pos hh] at h
    obtain ⟨rfl, -⟩ := eq_search_of_serve (Option.map_eq_none_iff.1 h)
    cases hh.1
  · rw [if_neg hh] at h
    cases h

/-- A request without an answer is one for a search of which the outcome never comes. -/
theorem staysPending_of_handle {rt : Router} {now : Instant} {r : Request}
    (h : rt.handle now r = none) :
    r.method = .post ∧ rt.endpointAt? r.path = some .search ∧
    ∃ q lineup, r.decode SearchRequest.read = .ok q ∧
      rt.service.executor.registry.lineup (rt.service.enginesFor q.engines) = .ok lineup ∧
      StaysPending rt.service.executor (rt.service.enginesFor q.engines) q.song
        (rt.service.contextFor q.context) := by
  by_cases ho : r.method = .options
  · rw [Router.handle, if_pos ho] at h
    cases h
  rw [Router.handle, if_neg ho] at h
  have hnone : (rt.route now r).1 = none := Option.map_eq_none_iff.1 h
  rcases route_cases rt now r with ⟨why, hroute, -⟩ | hroute
  · rw [hroute] at hnone
    cases hnone
  rw [hroute] at hnone
  cases hp : rt.endpointAt? r.path with
  | none => rw [hp] at hnone; cases hnone
  | some p =>
    rw [hp, dispatch] at hnone
    obtain ⟨rfl, hm, q, hq, hpending⟩ := eq_search_of_endpoint hnone
    obtain ⟨lineup, hl, hstays⟩ := staysPending_of_search hpending
    exact ⟨hm, rfl, q, lineup, hq, hl, hstays⟩

/-- **What requests leave behind.** Each exchange of a sequence finds the same endpoints and engines.
If the request is turned away, or no engine is needed for it, it leaves the service as it is and takes
no time. Engines are started only by a request for a search that is answered by its outcome: those
that it is over, each once. An engine is asked only by a request for the link of a result without one,
which names it. So the accounts of a sequence are the sum over its exchanges. A request that gets no
answer at all is one for a search that goes on for ever. -/
theorem traces_left {rt last : Router} {es : List Exchange}
    (hr : rt.service.executor.registry.Reachable) (h : rt.Handles es last) :
    (∀ before e after, es = before ++ e :: after →
      ∃ mid mid', rt.Handles before mid ∧ rt.Remains mid ∧
        mid.handle e.now e.request = some (e.response, e.elapsed, mid') ∧
        mid'.Handles after last ∧ mid.Leaves e mid') ∧
    (∀ engine,
      (last.tally engine).searches =
        (rt.tally engine).searches + (es.flatMap rt.searched).count engine ∧
      (last.tally engine).retrieves =
        (rt.tally engine).retrieves + (es.flatMap rt.asked).count engine) ∧
    ∀ now r, last.handle now r = none →
      r.method = .post ∧ last.endpointAt? r.path = some .search ∧
      ∃ q lineup, r.decode SearchRequest.read = .ok q ∧
        last.service.executor.registry.lineup (last.service.enginesFor q.engines) = .ok lineup ∧
        StaysPending last.service.executor (last.service.enginesFor q.engines) q.song
          (last.service.contextFor q.context) :=
  ⟨(h.leaves hr).2, h.tally hr, fun _ _ => staysPending_of_handle⟩

/-- A service over two engines, one of which is never asked by anybody. -/
def stall : Router := .ofService ⟨0⟩
  { build := default
    executor := .ofScripts [{ id := "vinyl", after := .ofMillis 3 }, { id := "tape" }] }

/-- A request for a search that does not say what its body is. -/
def unlabelled : Request where
  method := .post
  target := "/api/v1/search"
  body := "\x7b\"song\": \x7b\"name\": \"x\"\x7d\x7d".toUTF8.toList

/-- A request for a search by one of the engines. -/
def hearing : Request where
  method := .post
  target := "/api/v1/search"
  headers := [("content-type", "application/json")]
  body := "\x7b\"engines\": [\"vinyl\"], \"song\": \x7b\"name\": \"x\"\x7d\x7d".toUTF8.toList

/-- A request for the link of a result without one. -/
def purchase : Request where
  method := .post
  target := "/api/v1/retrieve"
  headers := [("content-type", "application/json")]
  body := "\x7b\"search_info\": \x7b\"source\": \"vinyl\", \"identifier\": \"7\"\x7d\x7d".toUTF8.toList

theorem decode_hearing : hearing.decode SearchRequest.read =
    .ok { engines := some ["vinyl"], song := { name := "x" } } := by
  have hread : (hearing.decode SearchRequest.read).toOption.map
      (fun q => (q.engines, q.song, q.context)) = some (some ["vinyl"], { name := "x" }, none) := by
    decide +kernel
  cases hdecode : hearing.decode SearchRequest.read with
  | error why => rw [hdecode] at hread; cases hread
  | ok q => rw [hdecode] at hread; cases q; cases hread; rfl

theorem decode_purchase : purchase.decode RetrieveRequest.read =
    .ok { found := { source := "vinyl", identifier := "7" } } := by
  have hread : (purchase.decode RetrieveRequest.read).toOption.map
      (fun q => (q.found, q.context)) = some ({ source := "vinyl", identifier := "7" }, none) := by
    decide +kernel
  cases hdecode : purchase.decode RetrieveRequest.read with
  | error why => rw [hdecode] at hread; cases hread
  | ok q => rw [hdecode] at hread; cases q; cases hread; rfl

/-- What is heard and bought at the stall: the statuses of the responses and the time they take. -/
theorem sales_stall :
    ((stall.service.search { engines := some ["vinyl"], song := { name := "x" } }).map fun heard =>
      let sold := heard.after.retrieve { found := { source := "vinyl", identifier := "7" } }
      (heard.response.status, heard.elapsed, sold.response.status, sold.elapsed)) =
      some (200, .ofMillis 3, 200, .zero) := by
  decide +kernel

theorem traces_left_stall :
    stall.service.executor.registry.Reachable ∧ ∃ es last, stall.Handles es last ∧
      es.map (fun e => (e.request, e.response.status, e.elapsed)) =
        [(unlabelled, 415, .zero), (hearing, 200, .ofMillis 3), (purchase, 200, .zero)] ∧
      (last.tally "vinyl").searches = 1 ∧ (last.tally "vinyl").retrieves = 1 ∧
      (last.tally "tape").searches = 0 ∧ (last.tally "tape").retrieves = 0 := by
  have hr : stall.service.executor.registry.Reachable := Executor.reachable_ofScripts _
  obtain ⟨heard, hheard, hsays⟩ := Option.map_eq_some_iff.1 sales_stall
  rw [Prod.mk.injEq, Prod.mk.injEq, Prod.mk.injEq] at hsays
  obtain ⟨hstatus, helapsed, hstatus', helapsed'⟩ := hsays
  have hp : hearing.path = "/api/v1/search".toList := by decide
  have hp' : purchase.path = "/api/v1/retrieve".toList := by decide
  obtain ⟨turned, h415, hfirst⟩ : ∃ response : Response, response.status = 415 ∧
      stall.handle 0 unlabelled = some (response, .zero, stall) := by
    have hno : unlabelled.decode SearchRequest.read = .error .wrongType := rfl
    rw [handle_admitted rfl rfl (hp ▸ leadsTo_search) (fun _ hb => by cases hb), Endpoint.serve, hno]
    exact ⟨_, rfl, rfl⟩
  obtain ⟨told, h200, hsecond⟩ : ∃ response : Response, response.status = 200 ∧
      stall.handle 0 hearing = some (response, .ofMillis 3, ⟨heard.after, none⟩) := by
    rw [handle_search rfl hp (fun _ hb => by cases hb) decode_hearing, hheard, ← helapsed]
    exact ⟨shared heard.response, hstatus, rfl⟩
  obtain ⟨sold, h200', last, hthird⟩ : ∃ response : Response, response.status = 200 ∧ ∃ last,
      Router.handle ⟨heard.after, none⟩ 0 purchase = some (response, .zero, last) := by
    rw [handle_admitted rfl rfl (hp' ▸ leadsTo_retrieve) (fun _ hb => by cases hb),
      Endpoint.serve, decode_purchase, ← helapsed']
    exact ⟨shared (heard.after.retrieve _).response, hstatus', _, rfl⟩
  have hs : stall.Handles
      [⟨0, unlabelled, turned, .zero⟩, ⟨0, hearing, told, .ofMillis 3⟩, ⟨0, purchase, sold, .zero⟩]
      last := .cons hfirst (.cons hsecond (.cons hthird .nil))
  have hlead : stall.endpointAt? hearing.path = some .search := hp.symm ▸ leadsTo_search.plain
  have hlead' : stall.endpointAt? purchase.path = some .retrieve :=
    hp'.symm ▸ leadsTo_retrieve.plain
  -- who was searched and asked in each of the three
  have hnone : stall.searched ⟨0, unlabelled, turned, .zero⟩ = [] ∧
      stall.asked ⟨0, unlabelled, turned, .zero⟩ = [] := ⟨rfl, rfl⟩
  have hsearched : stall.searched ⟨0, hearing, told, .ofMillis 3⟩ = ["vinyl"] ∧
      stall.asked ⟨0, hearing, told, .ofMillis 3⟩ = [] := by
    constructor
    · rw [searched_of_decode decode_hearing rfl hlead (.inl h200)]
      rfl
    · exact asked_eq_nil fun _ _ _ hother => by cases hlead.symm.trans hother
  have hasked : stall.searched ⟨0, purchase, sold, .zero⟩ = [] ∧
      stall.asked ⟨0, purchase, sold, .zero⟩ = ["vinyl"] := by
    constructor
    · exact searched_eq_nil fun _ _ _ hother => by cases hlead'.symm.trans hother
    · rw [asked_of_decode decode_purchase rfl hlead' ?_ rfl (by decide +kernel)]
      rintro (h | h) <;> cases h200'.symm.trans h
  obtain ⟨-, htally, -⟩ := traces_left hr hs
  simp only [List.flatMap_cons, List.flatMap_nil, hnone, hsearched, hasked] at htally
  refine ⟨hr, _, _, hs, ?_, (htally "vinyl").1, (htally "vinyl").2, (htally "tape").1,
    (htally "tape").2⟩
  simp only [List.map_cons, List.map_nil, h415, h200, h200']

end TrackResolver.Http
