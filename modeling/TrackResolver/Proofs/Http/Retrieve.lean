import TrackResolver.Proofs.Executor.Routing
import TrackResolver.Proofs.Http.Limit
import TrackResolver.Proofs.Http.Search
import TrackResolver.Proofs.Json.Inside
import TrackResolver.Proofs.Json.RoundTrip

/-!
# From the answer of a search to a link

The body of a search that was answered is handed back in a request for its link, under the text of the
same context. In between, the service may have answered anything: it has the same engines and the same
defaults.

Results:
* `HandsBack.decode`: the body that hands a result back is read as that result and that context.
* `exists_found_of_search`: a search is answered with the status 200 only by a result.
* `Handles.continues`: what a sequence of requests leaves as it is.
* `retrieveReply`: a request for the link of a result that a search gave.
* `found_handed_back`: from the answer of the search to that of the retrieval.
-/
namespace TrackResolver

open Slot Executor

namespace Http

open Router Json

/-! ## The body -/

/-- A body that hands `result` back. The text of a context that is read as `context` stands behind it
or before it; there need be none. -/
inductive BodyHandsBack (result : Value) (context : Option Overrides) : List UInt8 → Prop
  | alone {found : List UInt8} (hf : Spells found result) (hc : context = none) :
    BodyHandsBack result context (frame [("search_info", found)])
  | before {found text : List UInt8} (hf : Spells found result)
    (ht : readWhole (readOption Overrides.read) text = .ok context) :
    BodyHandsBack result context (frame [("search_info", found), ("context", text)])
  | behind {found text : List UInt8} (hf : Spells found result)
    (ht : readWhole (readOption Overrides.read) text = .ok context) :
    BodyHandsBack result context (frame [("context", text), ("search_info", found)])

/-- The request hands `result` back under `context`. -/
structure Request.HandsBack (r : Request) (result : Value) (context : Option Overrides) : Prop where
  method : r.method = .post
  path : r.path = "/api/v1/retrieve".toList
  type : (r.header? "content-type").any MediaType.isJson = true
  size : r.body.length ≤ bodyLimit
  body : BodyHandsBack result context r.body

section
variable {f : Found} {context : Option Overrides} {p : Progress RetrieveRequest}

theorem readMember_found {n : Node} (h : Found.read n = .ok f) (hp : "search_info" ∉ p.seen) :
    readMember RetrieveRequest.record p (textNode "search_info", n) =
      .ok ⟨"search_info" :: p.seen, { p.value with found := f }⟩ :=
  readMember_textNode rfl hp (by dsimp only [requiredField]; rw [h]; rfl)

theorem readMember_context {n : Node} (h : readOption Overrides.read n = .ok context)
    (hp : "context" ∉ p.seen) :
    readMember RetrieveRequest.record p (textNode "context", n) =
      .ok ⟨"context" :: p.seen, { p.value with context }⟩ :=
  readMember_textNode rfl hp (by dsimp only [field]; rw [h]; rfl)

theorem BodyHandsBack.read {body : List UInt8} (h : BodyHandsBack f.toJson context body) :
    readFirst RetrieveRequest.read body = .ok ⟨f, context⟩ := by
  have hfound : ∀ {found}, Spells found f.toJson → ∃ n, Holds found n ∧ Found.read n = .ok f := by
    intro found hf
    obtain ⟨w, hw, hn⟩ := hf.holds
    exact ⟨w.node, hn, f.reads w hw⟩
  have hcontext : ∀ {text}, readWhole (readOption Overrides.read) text = .ok context →
      ∃ n, Holds text n ∧ readOption Overrides.read n = .ok context :=
    fun ht => holds_of_readWhole (minds_readRecord _).option ht
  cases h with
  | alone hf hc =>
    obtain ⟨n, hn, hf⟩ := hfound hf
    subst hc
    let p : Progress RetrieveRequest := ⟨["search_info"], ⟨f, none⟩⟩
    refine readFirst_frame (p := p) (.cons (hn.named _) .nil) ?_ rfl
    rw [List.foldlM_cons, readMember_found hf List.not_mem_nil]
    rfl
  | before hf ht =>
    obtain ⟨n, hn, hf⟩ := hfound hf
    obtain ⟨u, hu, hc⟩ := hcontext ht
    let p : Progress RetrieveRequest := ⟨["context", "search_info"], ⟨f, context⟩⟩
    refine readFirst_frame (p := p) (.cons (hn.named _) (.cons (hu.named _) .nil)) ?_ rfl
    rw [List.foldlM_cons, readMember_found hf List.not_mem_nil]
    show List.foldlM _ _ _ = _
    rw [List.foldlM_cons, readMember_context hc (by simp)]
    rfl
  | behind hf ht =>
    obtain ⟨n, hn, hf⟩ := hfound hf
    obtain ⟨u, hu, hc⟩ := hcontext ht
    let p : Progress RetrieveRequest := ⟨["search_info", "context"], ⟨f, context⟩⟩
    refine readFirst_frame (p := p) (.cons (hu.named _) (.cons (hn.named _) .nil)) ?_ rfl
    rw [List.foldlM_cons, readMember_context hc List.not_mem_nil]
    show List.foldlM _ _ _ = _
    rw [List.foldlM_cons, readMember_found hf (by simp)]
    rfl

theorem Request.HandsBack.decode {r : Request} (h : r.HandsBack f.toJson context) :
    r.decode RetrieveRequest.read = .ok ⟨f, context⟩ := by
  rw [Request.decode, h.type, if_neg (by decide), if_neg (Nat.not_lt.2 h.size), h.body.read]

end

/-! ## A search that is answered -/

theorem status_ne_ok (fault : ApiFault) : fault.status ≠ 200 := by
  rw [ApiFault.status]
  cases fault with
  | body why => cases why <;> simp [ApiFault.kind, BodyFault.status]
  | rateLimited | unavailable => simp [ApiFault.kind]
  | call why =>
    cases why with
    | noEngines | unknownEngines => simp [ApiFault.kind]
    | allFailed report => rw [ApiFault.kind]; split <;> simp
    | engineFailed engine e => cases e <;> simp [ApiFault.kind]

section
variable {rt rt' : Router} {now : Instant} {r : Request} {response : Response} {elapsed : Duration}

/-- A request that is answered with the status 200 has been admitted. -/
theorem exists_served {e : Endpoint} (he : e.isRead = false) (hm : r.method = .post)
    (hp : LeadsTo r.path e) (h : rt.handle now r = some (response, elapsed, rt'))
    (hs : response.status = 200) :
    ∃ served, e.serve rt.service r = some served ∧ response = shared served.response ∧
      elapsed = served.elapsed ∧ rt'.service = served.after := by
  by_cases hb : ∀ b ∈ rt.budget, (b.request now).1 = .admitted
  · rw [handle_admitted he hm hp hb] at h
    obtain ⟨served, hserved, heq⟩ := Option.map_eq_some_iff.1 h
    cases heq
    exact ⟨served, hserved, rfl, rfl, rfl⟩
  · simp only [not_forall] at hb
    obtain ⟨b, hbudget, hverdict⟩ := hb
    obtain ⟨below, hbelow, -⟩ := hp.limited
    obtain ⟨why, hwhy⟩ : ∃ why, (b.request now).1.fault? = some why := by
      cases hv : (b.request now).1 with
      | admitted => exact absurd hv hverdict
      | shed | broken => exact ⟨_, rfl⟩
    have hroute : (rt.route now r).1 = refused rt.service why := by
      simp only [route, Option.mem_def.1 hbudget, hbelow, hwhy]
    rw [Router.handle, if_neg (by simp [hm])] at h
    dsimp only at h
    rw [hroute] at h
    cases h
    exact absurd hs (status_ne_ok why)

theorem exists_found_of_search {s : Service} {served : Served}
    (h : Endpoint.serve .search s r = some served) (hs : served.response.status = 200) :
    ∃ q f call, r.decode SearchRequest.read = .ok q ∧
      s.executor.search (s.enginesFor q.engines) q.song (s.contextFor q.context) none = some call ∧
      call.answer = .found f ∧ served.response = .json 200 f.toJson := by
  rw [Endpoint.serve] at h
  cases hq : r.decode SearchRequest.read with
  | error why =>
    rw [hq] at h
    cases h
    exact absurd hs (status_ne_ok (.body why))
  | ok q =>
    rw [hq] at h
    obtain ⟨call, hcall, -, -, ⟨f, hf, hresponse⟩ | ⟨why, -, hresponse⟩⟩ := search_served h
    · exact ⟨q, f, call, rfl, hcall, hf, hresponse⟩
    · rw [hresponse] at hs
      exact absurd hs (status_ne_ok (.call why))

end

/-! ## What requests leave as it is -/

/-- The service has become another with the same engines and the same default context. -/
structure Service.Continues (s s' : Service) : Prop where
  registry : s'.executor.registry = s.executor.registry
  context : s'.context = s.context

namespace Service.Continues

variable {s s' s'' : Service} {r : Request} {served : Served}

theorem refl (s : Service) : s.Continues s := ⟨rfl, rfl⟩

theorem trans (h : s.Continues s') (h' : s'.Continues s'') : s.Continues s'' :=
  ⟨h'.registry.trans h.registry, h'.context.trans h.context⟩

theorem contextFor (h : s.Continues s') (overrides : Option Overrides) :
    s'.contextFor overrides = s.contextFor overrides := by
  unfold Service.contextFor
  rw [h.context]

theorem serve {e : Endpoint} (h : e.serve s r = some served) : s.Continues served.after := by
  rcases serve_cases s r h with (rfl | rfl) | ⟨q, -, -, hsearch⟩ | ⟨q, -, -, rfl⟩ | ⟨why, rfl⟩
  · exact refl s
  · exact refl s
  · obtain ⟨call, hcall, -, hafter, -⟩ := search_served hsearch
    rw [hafter]
    exact ⟨search_registry hcall, rfl⟩
  · exact ⟨retrieve_registry .., rfl⟩
  · exact refl s

theorem dispatch {e : Option Endpoint} (h : dispatch e s r = some served) :
    s.Continues served.after := by
  rcases dispatch_cases s r h with ⟨e, whole, hwhole, -, hafter⟩ | ⟨-, hafter⟩
  · rw [hafter]
    exact serve hwhole
  · rw [hafter]
    exact refl s

theorem route {rt : Router} {now : Instant} (h : (rt.route now r).1 = some served) :
    rt.service.Continues served.after := by
  unfold Router.route at h
  split at h
  · dsimp only at h
    split at h
    · cases h; exact refl _
    · exact dispatch h
  · exact dispatch h

end Service.Continues

theorem continues_of_handle {rt rt' : Router} {now : Instant} {r : Request} {response : Response}
    {elapsed : Duration} (h : rt.handle now r = some (response, elapsed, rt')) :
    rt.service.Continues rt'.service := by
  rw [Router.handle] at h
  split at h
  · cases h; exact .refl _
  · obtain ⟨served, hserved, heq⟩ := Option.map_eq_some_iff.1 h
    cases heq
    exact .route hserved

theorem Router.Handles.continues {rt rt' : Router} {es : List Exchange} (h : rt.Handles es rt') :
    rt.service.Continues rt'.service := by
  induction h with
  | nil => exact .refl _
  | cons hstep _ ih => exact (continues_of_handle hstep).trans ih

/-! ## A link that is asked for -/

theorem member?_source (f : Found) : f.toJson.member? "source" = some (.text f.source) := rfl

theorem member?_link (f : Found) :
    f.toJson.member? "pre_retrieve_result" = f.link.map Playable.toJson := by
  obtain ⟨source, identifier, song, link⟩ := f
  cases song <;> cases link <;> rfl

/-- What a request for the link of `f` gets under the context `c`, where `result` is the body that `f`
was answered with; `s'` is the service afterwards. -/
structure RetrieveReply (s : Service) (c : Context) (result : Value) (f : Found)
    (response : Response) (s' : Service) : Prop where
  link : ∀ p, (s.executor.retrieve f c).answer = .ok p → response = shared (.json 200 p.toJson)
  fault : ∀ why, (s.executor.retrieve f c).answer = .error why →
    response = shared (ApiFault.call why).response
  after : s' = { s with executor := (s.executor.retrieve f c).after }
  /-- A link that the result has is answered as it is, and no engine is asked. -/
  ready : ∀ p, result.member? "pre_retrieve_result" = some p →
    response.status = 200 ∧ response.body = some p ∧ s' = s
  /-- Without one, the engine that the result names is asked, once, and no other. It takes the result
  for its own. -/
  asked : result.member? "pre_retrieve_result" = none →
    ∃ name e, result.member? "source" = some (.text name) ∧
      s.executor.registry.get? name = some e ∧ e.ensureOwned f = .ok () ∧
      (∀ p, e.retrieve f (c.view name) = .ok p →
        response.status = 200 ∧ response.body = some p.toJson) ∧
      (∀ why, e.retrieve f (c.view name) = .error why →
        response = shared (ApiFault.call (.engineFailed name why)).response) ∧
      ∀ other, s'.executor.ledger.tally other =
        if other = name then (s.executor.ledger.tally name).retrieved
        else s.executor.ledger.tally other
  /-- The body is never refused, nor the name. -/
  known : ∀ status, ¬ response.Refuses status "INVALID_BODY" ∧
    ¬ response.Refuses status "UNKNOWN_ENGINE"

theorem not_refuses_link (p : Playable) (status : Nat) (code : String) :
    ¬ (shared (.json 200 p.toJson)).Refuses status code := by
  rintro ⟨-, h⟩
  cases h

theorem not_refuses_engineFailed (engine : String) (e : EngineError) (status : Nat) :
    ¬ (shared (ApiFault.call (.engineFailed engine e)).response).Refuses status "INVALID_BODY" ∧
    ¬ (shared (ApiFault.call (.engineFailed engine e)).response).Refuses status "UNKNOWN_ENGINE" := by
  rw [refuses_iff, refuses_iff]
  cases e <;> simp [ApiFault.kind]

section
variable {s : Service} {f : Found} {e : Engine}

/-- The reply to a request for the link of a result, if its engine is there. -/
theorem retrieveReply (he : s.executor.registry.get? f.source = some e) (hid : e.id = f.source)
    (context : Option Overrides) :
    RetrieveReply s (s.contextFor context) f.toJson f
      (shared (s.retrieve ⟨f, context⟩).response) (s.retrieve ⟨f, context⟩).after := by
  have hlink : ∀ p, (s.executor.retrieve f (s.contextFor context)).answer = .ok p →
      shared (s.retrieve ⟨f, context⟩).response = shared (.json 200 p.toJson) := by
    intro p h
    simp only [Service.retrieve, h]
  have hfault : ∀ why, (s.executor.retrieve f (s.contextFor context)).answer = .error why →
      shared (s.retrieve ⟨f, context⟩).response = shared (ApiFault.call why).response := by
    intro why h
    simp only [Service.retrieve, h]
  cases hl : f.link with
  | some p =>
    have hready := retrieve_of_link s.executor hl (s.contextFor context)
    have hresponse := hlink p (by rw [hready])
    refine ⟨hlink, hfault, rfl, ?_, ?_, ?_⟩
    · intro v hv
      rw [member?_link, hl] at hv
      cases hv
      rw [hresponse]
      exact ⟨rfl, rfl, by rw [Service.retrieve, hready]⟩
    · intro hnone
      rw [member?_link, hl] at hnone
      cases hnone
    · intro status
      rw [hresponse]
      exact ⟨not_refuses_link p _ _, not_refuses_link p _ _⟩
  | none =>
    have hanswer := answer_of_get? hl he (s.contextFor context)
    have hok : ∀ p, e.retrieve f ((s.contextFor context).view f.source) = .ok p →
        shared (s.retrieve ⟨f, context⟩).response = shared (.json 200 p.toJson) :=
      fun p h => hlink p (by rw [hanswer, h]; rfl)
    have herror : ∀ why, e.retrieve f ((s.contextFor context).view f.source) = .error why →
        shared (s.retrieve ⟨f, context⟩).response =
          shared (ApiFault.call (.engineFailed f.source why)).response :=
      fun why h => hfault _ (by rw [hanswer, h]; rfl)
    refine ⟨hlink, hfault, rfl, ?_, ?_, ?_⟩
    · intro v hv
      rw [member?_link, hl] at hv
      cases hv
    · intro _
      have howned : e.ensureOwned f = .ok () := by
        rw [Engine.ensureOwned, Found.ensureFrom, if_pos hid.symm]
      refine ⟨f.source, e, member?_source f, he, howned, fun p h => ?_, herror,
        tally_of_get? hl he _⟩
      rw [hok p h]
      exact ⟨rfl, rfl⟩
    · intro status
      cases hr : e.retrieve f ((s.contextFor context).view f.source) with
      | ok p =>
        rw [hok p hr]
        exact ⟨not_refuses_link p _ _, not_refuses_link p _ _⟩
      | error why =>
        rw [herror why hr]
        exact not_refuses_engineFailed f.source why status

end

/-- **The answer of a search leads to a link.** If a request for a search is answered with the status
200, its body is a result that the search gave, under the context of the request. Whatever is answered
in between: a request that is admitted and hands that body back, under the same context, is read as
that very result and context, and gets its `RetrieveReply`. -/
theorem found_handed_back {rt rt' : Router} {now : Instant} {r : Request} {response : Response}
    {elapsed : Duration} {result : Value} (hr : rt.service.executor.registry.Reachable)
    (hm : r.method = .post) (hp : r.path = "/api/v1/search".toList)
    (h : rt.handle now r = some (response, elapsed, rt')) (hs : response.status = 200)
    (hbody : response.body = some result) :
    ∃ q f call, r.decode SearchRequest.read = .ok q ∧
      rt.service.executor.search (rt.service.enginesFor q.engines) q.song
        (rt.service.contextFor q.context) none = some call ∧
      call.answer = .found f ∧ result = f.toJson ∧
      ∀ es rt'', rt'.Handles es rt'' → ∀ now' (r' : Request), r'.HandsBack result q.context →
        (∀ b ∈ rt''.budget, (b.request now').1 = .admitted) →
        r'.decode RetrieveRequest.read = .ok ⟨f, q.context⟩ ∧
        ∃ response' last, rt''.handle now' r' = some (response', .zero, last) ∧
          RetrieveReply rt''.service (rt.service.contextFor q.context) result f response'
            last.service := by
  obtain ⟨served, hserved, rfl, -, hservice⟩ := exists_served rfl hm (hp ▸ leadsTo_search) h hs
  obtain ⟨q, f, call, hq, hcall, hf, hresponse⟩ := exists_found_of_search hserved hs
  rw [hresponse] at hbody
  obtain rfl : f.toJson = result := Option.some.inj hbody
  refine ⟨q, f, call, hq, hcall, hf, rfl, ?_⟩
  intro es rt'' hes now' r' hback hb
  have hstep : rt.service.Continues rt'.service := continues_of_handle h
  have hcontinues : rt.service.Continues rt''.service := hstep.trans hes.continues
  obtain ⟨-, e, -, he, -⟩ := exists_engine_of_found hr hcall hf
  have hid : e.id = f.source := (Registry.wellFormed_of_reachable hr).id_of_get? he
  rw [← hcontinues.registry] at he
  have hdecode := hback.decode
  have hhandle : rt''.handle now' r' = _ :=
    handle_admitted rfl hback.method (hback.path ▸ leadsTo_retrieve) hb
  rw [Endpoint.serve, hdecode] at hhandle
  have hreply := retrieveReply he hid q.context
  rw [hcontinues.contextFor] at hreply
  exact ⟨hdecode, _, _, hhandle, hreply⟩

/-- A service that admits two requests a second, over an engine that takes the host of its links from
its settings. -/
def kiosk : Router := .ofService ⟨0⟩
  { build := default
    executor := .ofScripts
      [{ id := "keyed", after := .ofMillis 2, retrieve := .setting "host" none }]
    context := { mode := .orderFirst }
    rateLimit := some ⟨2, 1⟩ }

/-- The text of a context with a host for the engine. -/
def hostText : List UInt8 :=
  "\x7b\"config\": \x7b\"keyed\": \x7b\"host\": \"cdn\"\x7d\x7d\x7d".toUTF8.toList

def hostContext : Overrides :=
  { settings := Dict.empty.insert "keyed" (Dict.empty.insert "host" "cdn") }

def order : Request where
  method := .post
  target := "/api/v1/search"
  headers := [("content-type", "application/json")]
  body := frame [("song", "\x7b\"name\": \"x\"\x7d".toUTF8.toList), ("context", hostText)]

def ordered : Found := { source := "keyed", identifier := "keyed-track" }

/-- The same context stands behind the result. -/
def pickup : Request where
  method := .post
  target := "/api/v1/retrieve"
  headers := [("content-type", "application/json")]
  body := frame [("search_info", utf8 ordered.toJson.renderList), ("context", hostText)]

theorem found_handed_back_kiosk :
    kiosk.service.executor.registry.Reachable ∧ order.method = .post ∧
    order.path = "/api/v1/search".toList ∧
    ∃ response elapsed rt' result, kiosk.handle 0 order = some (response, elapsed, rt') ∧
      response.status = 200 ∧ response.body = some result ∧
      ∃ response' last, rt'.handle 0 pickup = some (response', .zero, last) ∧
        response'.status = 200 ∧
        response'.body = some (Playable.toJson ⟨"keyed", "https://cdn/keyed-track"⟩) ∧
        (last.service.executor.ledger.tally "keyed").retrieves = 1 := by
  have hr : kiosk.service.executor.registry.Reachable := Executor.reachable_ofScripts _
  have hp : order.path = "/api/v1/search".toList := by decide
  have hb : ∀ b ∈ kiosk.budget, (b.request 0).1 = .admitted := by rintro b ⟨⟩; decide
  have hq : order.decode SearchRequest.read = .ok ⟨none, { name := "x" }, some hostContext⟩ := by
    have hread : (order.decode SearchRequest.read).toOption.map
        (fun q => (q.engines, q.song, q.context)) =
          some (none, { name := "x" }, some hostContext) := by decide +kernel
    cases hdecode : order.decode SearchRequest.read with
    | error why => rw [hdecode] at hread; cases hread
    | ok q => rw [hdecode] at hread; cases q; cases hread; rfl
  have htext : readWhole (readOption Overrides.read) hostText = .ok (some hostContext) := by
    have hread : (readWhole (readOption Overrides.read) hostText).toOption =
        some (some hostContext) := by decide +kernel
    cases hwhole : readWhole (readOption Overrides.read) hostText with
    | error why => rw [hwhole] at hread; cases hread
    | ok o => rw [hwhole] at hread; cases hread; rfl
  have hhandle := handle_search rfl hp hb hq
  obtain ⟨served, hserved⟩ : ∃ served, kiosk.service.search
    ⟨none, { name := "x" }, some hostContext⟩ = some served := ⟨_, rfl⟩
  have hresponse : served.response = .json 200 ordered.toJson := by cases hserved; rfl
  rw [hserved, Option.map_some, hresponse] at hhandle
  have hbudget : ∀ b ∈ kiosk.budget.map fun b => (b.request 0).2, (b.request 0).1 = .admitted := by
    rintro b ⟨⟩; decide
  obtain ⟨q, f, call, hq', hcall, hf, -, hback⟩ :=
    found_handed_back hr rfl hp hhandle rfl rfl
  cases hq.symm.trans hq'
  obtain rfl : ordered = f := by cases hcall; cases hf; rfl
  obtain ⟨-, response', last, hlast, hreply⟩ := hback [] _ .nil 0 pickup
    ⟨rfl, by decide, by decide +kernel, by decide +kernel, .before (spells_render _) htext⟩ hbudget
  obtain ⟨name, e, hname, he, -, hok, -, htally⟩ := hreply.asked rfl
  cases hname
  cases hserved
  cases he
  obtain ⟨hstatus, hbody⟩ := hok ⟨"keyed", "https://cdn/keyed-track"⟩ rfl
  have hcount : (last.service.executor.ledger.tally "keyed").retrieves = 1 :=
    (congrArg Tally.retrieves (htally "keyed")).trans rfl
  exact ⟨hr, rfl, hp, _, _, _, _, hhandle, rfl, rfl, response', last, hlast, hstatus, hbody, hcount⟩

end Http

end TrackResolver
