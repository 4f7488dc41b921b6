import Mathlib.Data.List.Forall2
import TrackResolver.Engine.Scripted
import TrackResolver.Http.Router
import TrackResolver.Proofs.Http.Budget

/-!
# What a limit changes

A router with a limit sheds requests. All others it answers as the same service does without a
limit, but for two things: it hands on what is below `/api/v1`, so it does not tell OPTIONS which
methods an endpoint there allows, and it does not count a slash at the beginning twice.

Results:
* `serve_cases`, `search_served`, `dispatch_cases`, `status_of_dispatch`: what is answered at a path.
* `dispatch_withLimit`, `dispatch_singled`: what is at a path looks neither at the limit nor at the
  target.
* `endpoint?_singled`: where a request leads under a limit, it leads without one as well.
* `handle_shed_or_same`: one request.
* `Handles.unlimited`: a whole sequence of requests.
* `limit_transparent`: the router of a service with a limit, and that of the service without.
-/
namespace TrackResolver.Http

open Router

/-! ## Handlers -/

/-- The answer with this limit on the service afterwards. -/
def Served.withLimit (limit : Option RateLimit) (served : Served) : Served :=
  { served with after := { served.after with rateLimit := limit } }

section
variable (s : Service) (r : Request) (limit : Option RateLimit)

theorem search_withLimit (q : SearchRequest) :
    Service.search { s with rateLimit := limit } q = (s.search q).map (·.withLimit limit) := by
  simp only [Service.search, Service.enginesFor, Service.contextFor]
  cases s.executor.search _ q.song _ none with
  | none => rfl
  | some call =>
    obtain ⟨answer, elapsed, after⟩ := call
    cases answer <;> rfl

theorem handle_withLimit (e : Endpoint) :
    e.handle { s with rateLimit := limit } r = (e.handle s r).map (·.withLimit limit) := by
  have hserve :
      e.serve { s with rateLimit := limit } r = (e.serve s r).map (·.withLimit limit) := by
    cases e with
    | health | engines => rfl
    | search =>
      simp only [Endpoint.serve]
      cases r.decode SearchRequest.read with
      | ok q => exact search_withLimit s limit q
      | error why => rfl
    | retrieve =>
      simp only [Endpoint.serve]
      cases r.decode RetrieveRequest.read <;> rfl
  unfold Endpoint.handle
  by_cases hm : r.method = (if e.isRead then .get else .post)
  · rw [if_pos hm, if_pos hm, hserve]
  rw [if_neg hm, if_neg hm]
  by_cases hh : e.isRead ∧ r.method = .head
  · rw [if_pos hh, if_pos hh, hserve]
    cases e.serve s r <;> rfl
  · rw [if_neg hh, if_neg hh]
    rfl

theorem dispatch_withLimit (e : Option Endpoint) :
    dispatch e { s with rateLimit := limit } r = (dispatch e s r).map (·.withLimit limit) := by
  cases e with
  | none => rfl
  | some e => exact handle_withLimit s r limit e

/-- The statuses of what is at a path. -/
def handlerStatuses : List Nat := [200, 400, 404, 405, 413, 415, 422, 502, 504]

theorem status_of_call (why : CallError) : (ApiFault.call why).status ∈ handlerStatuses := by
  unfold ApiFault.status handlerStatuses
  cases why with
  | unknownEngines | noEngines => simp [ApiFault.kind]
  | allFailed report =>
    rw [ApiFault.kind]
    split <;> simp
  | engineFailed engine e => cases e <;> simp [ApiFault.kind]

/-- A search that is answered has found something, or is refused. -/
theorem search_served {s : Service} {q : SearchRequest} {served : Served}
    (h : s.search q = some served) :
    ∃ call, s.executor.search (s.enginesFor q.engines) q.song (s.contextFor q.context) none =
        some call ∧ served.elapsed = call.elapsed ∧
      served.after = { s with executor := call.after } ∧
      ((∃ f, call.answer = .found f ∧ served.response = .json 200 f.toJson) ∨
        ∃ why, call.answer = .refused why ∧ served.response = (ApiFault.call why).response) := by
  obtain ⟨call, hcall, h⟩ := Option.bind_eq_some_iff.1 h
  refine ⟨call, hcall, ?_⟩
  cases ha : call.answer with
  | found f => rw [ha] at h; cases h; exact ⟨rfl, rfl, .inl ⟨f, rfl, rfl⟩⟩
  | refused why => rw [ha] at h; cases h; exact ⟨rfl, rfl, .inr ⟨why, rfl, rfl⟩⟩
  | abandoned => rw [ha] at h; cases h

/-- What an endpoint serves: what it reads off the service, the call of a request that decodes, or
the refusal of one that does not. -/
theorem serve_cases {e : Endpoint} {served : Served} (h : e.serve s r = some served) :
    (served = s.health ∨ served = s.listEngines) ∨
    (∃ q, e = .search ∧ r.decode SearchRequest.read = .ok q ∧ s.search q = some served) ∨
    (∃ q, e = .retrieve ∧ r.decode RetrieveRequest.read = .ok q ∧ served = s.retrieve q) ∨
    ∃ why, served = s.refuse why := by
  cases e with
  | health => cases h; exact .inl (.inl rfl)
  | engines => cases h; exact .inl (.inr rfl)
  | search =>
    simp only [Endpoint.serve] at h
    cases hq : r.decode SearchRequest.read with
    | error why => rw [hq] at h; cases h; exact .inr (.inr (.inr ⟨why, rfl⟩))
    | ok q => rw [hq] at h; exact .inr (.inl ⟨q, rfl, rfl, h⟩)
  | retrieve =>
    simp only [Endpoint.serve] at h
    cases hq : r.decode RetrieveRequest.read with
    | error why => rw [hq] at h; cases h; exact .inr (.inr (.inr ⟨why, rfl⟩))
    | ok q => rw [hq] at h; cases h; exact .inr (.inr (.inl ⟨q, rfl, rfl, rfl⟩))

theorem status_of_serve {e : Endpoint} {served : Served} (h : e.serve s r = some served) :
    served.response.status ∈ handlerStatuses := by
  have hok : ∀ body, (Response.json 200 body).status ∈ handlerStatuses :=
    fun _ => List.mem_cons_self
  rcases serve_cases s r h with (hserved | hserved) | ⟨q, -, -, hsearch⟩ | ⟨q, -, -, hserved⟩ |
    ⟨why, hserved⟩
  · rw [hserved]
    exact hok _
  · rw [hserved]
    exact hok _
  · obtain ⟨call, -, -, -, ⟨f, -, hresponse⟩ | ⟨why, -, hresponse⟩⟩ := search_served hsearch
    · rw [hresponse]
      exact hok _
    · rw [hresponse]
      exact status_of_call why
  · rw [hserved, Service.retrieve]
    dsimp only
    split
    · exact hok _
    · exact status_of_call _
  · rw [hserved]
    cases why <;> simp [Service.refuse, ApiFault.response, Response.json, ApiFault.status,
      ApiFault.kind, BodyFault.status, handlerStatuses]

/-- What is at a path has served the request, perhaps without a body, or refuses it unread. -/
theorem dispatch_cases {e : Option Endpoint} {served : Served} (h : dispatch e s r = some served) :
    (∃ e whole, Endpoint.serve e s r = some whole ∧
      served.response.status = whole.response.status ∧ served.after = whole.after) ∨
    (served.response.status = 404 ∨ served.response.status = 405) ∧ served.after = s := by
  cases e with
  | none => cases h; exact .inr ⟨.inl rfl, rfl⟩
  | some e =>
    simp only [dispatch, Endpoint.handle] at h
    by_cases hm : r.method = (if e.isRead then .get else .post)
    · rw [if_pos hm] at h
      exact .inl ⟨e, served, h, rfl, rfl⟩
    rw [if_neg hm] at h
    by_cases hh : e.isRead ∧ r.method = .head
    · rw [if_pos hh] at h
      obtain ⟨whole, hwhole, rfl⟩ := Option.map_eq_some_iff.1 h
      exact .inl ⟨e, whole, hwhole, rfl, rfl⟩
    · rw [if_neg hh] at h
      cases h
      exact .inr ⟨.inr rfl, rfl⟩

theorem status_of_dispatch {e : Option Endpoint} {served : Served}
    (h : dispatch e s r = some served) : served.response.status ∈ handlerStatuses := by
  rcases dispatch_cases s r h with ⟨e, whole, hwhole, hstatus, -⟩ | ⟨hstatus, -⟩
  · rw [hstatus]
    exact status_of_serve s r hwhole
  · rcases hstatus with hstatus | hstatus <;> rw [hstatus] <;> simp [handlerStatuses]

/-- So no answer of what is at a path says that the budget is used up, or broken. -/
theorem status_ne_of_dispatch {e : Option Endpoint} {served : Served}
    (h : dispatch e s r = some served) {status : Nat} (hno : status ∉ handlerStatuses) :
    served.response.status ≠ status := by
  intro hstatus
  rw [← hstatus] at hno
  exact hno (status_of_dispatch s r h)

end

/-! ## Where a request leads -/

/-- Whether the request is OPTIONS for an endpoint below the base. -/
def Request.isProbe (r : Request) : Bool :=
  r.method = .options ∧ ((belowBase? r.path).bind apiEndpoint?).isSome

/-- The request with one slash where there are two between the base and an endpoint, unless it is
OPTIONS. -/
def Request.singled (r : Request) : Request :=
  match belowBase? r.path with
  | some ('/' :: path) =>
    if r.method ≠ .options ∧ (apiEndpoint? path).isSome then
      { r with target := String.ofList (base ++ path) }
    else r
  | _ => r

/-- The endpoint to which a path leads under a limit. -/
def limitedEndpoint? (path : List Char) : Option Endpoint :=
  match limitedPath? path with
  | some path => apiEndpoint? path
  | none => endpoint? path

theorem eq_of_apiEndpoint? {path : List Char} {e : Endpoint} (h : apiEndpoint? path = some e) :
    path = "/engines".toList ∨ path = "/search".toList ∨ path = "/retrieve".toList := by
  unfold apiEndpoint? at h
  split at h
  · exact Or.inl ‹_›
  · split at h
    · exact Or.inr (Or.inl ‹_›)
    · split at h
      · exact Or.inr (Or.inr ‹_›)
      · cases h

/-- A path below the base is not that of the health of the service. -/
theorem endpoint?_of_belowBase {path below : List Char} (h : belowBase? path = some below) :
    endpoint? path = apiEndpoint? below := by
  have hne : path ≠ "/health".toList := by
    rintro rfl
    cases h
  rw [endpoint?, if_neg hne, h]
  rfl

/-- Before an endpoint there is one slash. -/
theorem apiEndpoint?_doubled (path : List Char) : apiEndpoint? ('/' :: '/' :: path) = none := by
  cases h : apiEndpoint? ('/' :: '/' :: path) with
  | none => rfl
  | some e => rcases eq_of_apiEndpoint? h with h | h | h <;> cases h

theorem method_singled (r : Request) : r.singled.method = r.method := by
  unfold Request.singled
  split
  · split <;> rfl
  · rfl

theorem singled_of_options {r : Request} (h : r.method = .options) : r.singled = r := by
  unfold Request.singled
  split
  · rw [if_neg fun hno => hno.1 h]
  · rfl

/-- What is at a path does not look at the target. -/
theorem dispatch_singled (e : Option Endpoint) (s : Service) (r : Request) :
    dispatch e s r.singled = dispatch e s r := by
  unfold Request.singled
  split
  · split <;> rfl
  · rfl

/-- The path of a request with the target that `singled` gives it. -/
theorem path_withTarget (r : Request) {path : List Char} {e : Endpoint}
    (h : apiEndpoint? path = some e) :
    Request.path { r with target := String.ofList (base ++ path) } = base ++ path := by
  simp only [Request.path, String.toList_ofList]
  rcases eq_of_apiEndpoint? h with rfl | rfl | rfl <;> decide

theorem belowBase?_append (path : List Char) : belowBase? (base ++ path) = some path := by
  have hprefix : base.isPrefixOf (base ++ path) = true :=
    List.isPrefixOf_iff_prefix.2 (List.prefix_append _ _)
  rw [belowBase?, if_pos hprefix, List.drop_left]

/-- Every endpoint below the base is behind a slash. -/
theorem slash_of_apiEndpoint? {path : List Char} (h : (apiEndpoint? path).isSome = true) :
    ∃ rest, path = '/' :: rest := by
  obtain ⟨e, he⟩ := Option.isSome_iff_exists.1 h
  rcases eq_of_apiEndpoint? he with rfl | rfl | rfl <;> exact ⟨_, rfl⟩

/-- Where one slash stands before the rest of the path, there is nothing to take away. -/
theorem singled_of_single {r : Request} {below : List Char} (hbelow : belowBase? r.path = some below)
    (h : ¬ ∃ rest, below = '/' :: '/' :: rest) : r.singled = r := by
  unfold Request.singled
  rw [hbelow]
  split
  · next path heq =>
    rw [if_neg]
    rintro ⟨-, he⟩
    obtain ⟨rest, rfl⟩ := slash_of_apiEndpoint? he
    exact h ⟨rest, Option.some.inj heq⟩
  · rfl

theorem limitedEndpoint?_of_single {path below : List Char} (hbelow : belowBase? path = some below)
    (h : ¬ ∃ rest, below = '/' :: '/' :: rest) : limitedEndpoint? path = apiEndpoint? below := by
  simp only [limitedEndpoint?]
  split
  · next path hlimited =>
    simp only [limitedPath?, hbelow] at hlimited
    split at hlimited
    · next hnil => cases hnil; cases hlimited; rfl
    · next rest htwo => exact absurd ⟨rest, Option.some.inj htwo⟩ h
    · next rest _ hone => cases hone; cases hlimited; rfl
    · cases hlimited
  · exact endpoint?_of_belowBase hbelow

/-- Where a request leads under a limit, it leads without one, with one slash for two. -/
theorem endpoint?_singled {r : Request} (h : r.method ≠ .options) :
    endpoint? r.singled.path = limitedEndpoint? r.path := by
  cases hbelow : belowBase? r.path with
  | none => simp only [Request.singled, limitedEndpoint?, limitedPath?, hbelow]
  | some below =>
    by_cases hdouble : ∃ rest, below = '/' :: '/' :: rest
    · obtain ⟨rest, rfl⟩ := hdouble
      simp only [Request.singled, limitedEndpoint?, limitedPath?, hbelow]
      cases he : apiEndpoint? ('/' :: rest) with
      | none => rw [if_neg (by simp), endpoint?_of_belowBase hbelow, apiEndpoint?_doubled]
      | some e =>
        rw [if_pos ⟨h, rfl⟩, path_withTarget r he, endpoint?_of_belowBase (belowBase?_append _), he]
    · rw [singled_of_single hbelow hdouble, limitedEndpoint?_of_single hbelow hdouble,
        endpoint?_of_belowBase hbelow]

/-! ## One request -/

/-- The router of the same service without a limit. -/
def Router.unlimited (rt : Router) : Router := ⟨{ rt.service with rateLimit := none }, none⟩

/-- The router has a budget that works for this limit, by this clock. -/
def Router.Limited (clock : Clock) (limit : RateLimit) (rt : Router) : Prop :=
  ∃ b, rt.budget = some b ∧ b.Working clock limit

/-- A response to this request without the header that only a router without a limit sets. -/
def Response.lessAllow (r : Request) (response : Response) : Response :=
  if r.isProbe then { response with headers := response.headers.filter (·.1 ≠ "allow") }
  else response

/-- The response to a request that is shed. -/
def turnedAway : Response := shared ApiFault.rateLimited.response

section
variable {clock : Clock} {limit : RateLimit} {rt : Router} {now : Instant}

theorem route_shed_or_dispatch (h : rt.Limited clock limit) (he : limit.isEnabled = true)
    (hc : clock.tells (now + limit.period.nanos) = true) (r : Request) :
    (rt.route now r = (refused rt.service .rateLimited, rt.budget)) ∨
    ∃ b, b.Working clock limit ∧
      rt.route now r = (dispatch (limitedEndpoint? r.path) rt.service r, some b) := by
  obtain ⟨b, hb, hw⟩ := h
  cases hp : limitedPath? r.path with
  | none => exact Or.inr ⟨b, hw, by simp only [route, hb, hp, limitedEndpoint?]⟩
  | some path =>
    rcases hw.request he hc with hshed | ⟨b', hadmitted, hw'⟩
    · left
      simp only [route, hb, hp, hshed]
      rfl
    · right
      refine ⟨b', hw', ?_⟩
      simp only [route, hb, hp, hadmitted, limitedEndpoint?]
      rfl

theorem handle_unlimited {r : Request} (h : r.method ≠ .options) :
    rt.unlimited.handle now r.singled =
      (dispatch (limitedEndpoint? r.path) rt.service r).map fun served =>
        (shared served.response, served.elapsed,
          ⟨{ served.after with rateLimit := none }, none⟩) := by
  have hroute : rt.unlimited.route now r.singled =
      ((dispatch (limitedEndpoint? r.path) rt.service r).map (·.withLimit none), none) := by
    rw [← endpoint?_singled h, ← dispatch_withLimit, ← dispatch_singled]
    rfl
  rw [Router.handle, if_neg (by rw [method_singled]; exact h), hroute]
  cases dispatch (limitedEndpoint? r.path) rt.service r <;> rfl

/-- A path with an endpoint below the base is handed on. -/
theorem limitedPath?_of_apiEndpoint? {path below : List Char} (h : belowBase? path = some below)
    (he : (apiEndpoint? below).isSome = true) : (limitedPath? path).isSome = true := by
  obtain ⟨e, he⟩ := Option.isSome_iff_exists.1 he
  simp only [limitedPath?, h]
  rcases eq_of_apiEndpoint? he with rfl | rfl | rfl <;> rfl

/-- OPTIONS for an endpoint below the base is handed on under a limit. -/
theorem leads_of_isProbe {r : Request} (h : r.isProbe = true) :
    (limitedPath? r.path).isSome = true ∧ ∃ e, endpoint? r.path = some e := by
  obtain ⟨-, hsome⟩ := of_decide_eq_true h
  obtain ⟨e, he⟩ := Option.isSome_iff_exists.1 hsome
  obtain ⟨below, hbelow, he⟩ := Option.bind_eq_some_iff.1 he
  exact ⟨limitedPath?_of_apiEndpoint? hbelow (by rw [he]; rfl),
    e, (endpoint?_of_belowBase hbelow).trans he⟩

/-- What else is handed on under a limit has no endpoint without one. -/
theorem endpoint?_of_not_isProbe {r : Request} (ho : r.method = .options) (h : r.isProbe = false)
    (hp : (limitedPath? r.path).isSome = true) : endpoint? r.path = none := by
  cases hbelow : belowBase? r.path with
  | none => rw [limitedPath?, hbelow] at hp; cases hp
  | some below =>
    rw [endpoint?_of_belowBase hbelow]
    cases he : apiEndpoint? below with
    | none => rfl
    | some e => exact absurd ⟨ho, by rw [hbelow, Option.bind_some, he]; rfl⟩ (of_decide_eq_false h)

theorem preflight_lessAllow (hb : rt.budget.isSome = true) {r : Request}
    (ho : r.method = .options) :
    shared (rt.preflight r) = (shared (rt.unlimited.preflight r)).lessAllow r := by
  have hplain : ¬ (rt.unlimited.budget.isSome = true ∧ (limitedPath? r.path).isSome = true) :=
    fun hno => absurd hno.1 nofun
  cases hprobe : r.isProbe with
  | true =>
    obtain ⟨hp, e, he⟩ := leads_of_isProbe hprobe
    simp only [Response.lessAllow, if_pos hprobe, preflight, if_pos (And.intro hb hp),
      if_neg hplain, he]
    rfl
  | false =>
    simp only [Response.lessAllow, hprobe, preflight, if_neg hplain]
    cases hp : (limitedPath? r.path).isSome with
    | false => simp
    | true => simp [hb, endpoint?_of_not_isProbe ho hprobe hp]

/-- A router with a limit sheds a request, and is as it was, or it does with it what it would do
without. -/
theorem handle_shed_or_same (h : rt.Limited clock limit) (he : limit.isEnabled = true)
    (hc : clock.tells (now + limit.period.nanos) = true) (r : Request) :
    rt.handle now r = some (turnedAway, .zero, rt) ∨
    (rt.handle now r = none ∧ rt.unlimited.handle now r.singled = none) ∨
    ∃ response elapsed after, rt.handle now r = some (response.lessAllow r, elapsed, after) ∧
      rt.unlimited.handle now r.singled = some (response, elapsed, after.unlimited) ∧
      (response.lessAllow r).status ≠ 429 ∧ after.Limited clock limit := by
  by_cases ho : r.method = .options
  · right; right
    obtain ⟨b, hb, hw⟩ := h
    have hpre : shared (rt.preflight r) = (shared (rt.unlimited.preflight r)).lessAllow r :=
      preflight_lessAllow (by rw [hb]; rfl) ho
    refine ⟨shared (rt.unlimited.preflight r), .zero, rt, ?_, ?_, ?_, b, hb, hw⟩
    · rw [Router.handle, if_pos ho, hpre]
    · rw [singled_of_options ho, Router.handle, if_pos ho]
    · rw [← hpre]; nofun
  have hsame : ∀ response : Response, response.lessAllow r = response := by
    intro response
    rw [Response.lessAllow, if_neg]
    rw [Request.isProbe]
    simp [ho]
  rcases route_shed_or_dispatch h he hc r with hroute | ⟨b, hw, hroute⟩
  · left
    rw [Router.handle, if_neg ho, hroute]
    rfl
  right
  have hplain := @handle_unlimited rt now r ho
  cases hd : dispatch (limitedEndpoint? r.path) rt.service r with
  | none =>
    rw [hd] at hroute hplain
    exact Or.inl ⟨by rw [Router.handle, if_neg ho, hroute]; rfl, hplain⟩
  | some served =>
    rw [hd] at hroute hplain
    refine Or.inr ⟨shared served.response, served.elapsed, ⟨served.after, some b⟩, ?_, hplain, ?_,
      b, rfl, hw⟩
    · rw [Router.handle, if_neg ho, hroute, hsame]
      rfl
    · rw [hsame]
      exact status_ne_of_dispatch rt.service r hd (by decide)

end

/-! ## A sequence of requests -/

/-- A request and its response. -/
structure Exchange where
  /-- The instant at which the request comes. -/
  now : Instant
  request : Request
  response : Response
  elapsed : Duration

/-- Whether the request is shed. -/
def Exchange.isShed (e : Exchange) : Bool := e.response.status = 429

/-- One request after another is answered. -/
inductive Router.Handles : Router → List Exchange → Router → Prop
  | nil {rt : Router} : rt.Handles [] rt
  | cons {rt rt' rt'' : Router} {e : Exchange} {rest : List Exchange}
    (h : rt.handle e.now e.request = some (e.response, e.elapsed, rt'))
    (hs : rt'.Handles rest rt'') : rt.Handles (e :: rest) rt''

/-- An exchange under a limit, and what it is without. -/
structure Exchange.Matches (e plain : Exchange) : Prop where
  now : plain.now = e.now
  request : plain.request = e.request.singled
  response : e.response = plain.response.lessAllow e.request
  elapsed : plain.elapsed = e.elapsed

section
variable {clock : Clock} {limit : RateLimit} {rt rt' : Router} {es : List Exchange}

theorem Router.Handles.limited (h : rt.Limited clock limit) (he : limit.isEnabled = true)
    (hc : ∀ e ∈ es, clock.tells (e.now + limit.period.nanos) = true) (hs : rt.Handles es rt') :
    rt'.Limited clock limit ∧ ∃ plain, rt.unlimited.Handles plain rt'.unlimited ∧
      List.Forall₂ Exchange.Matches (es.filter fun e => !e.isShed) plain := by
  induction hs with
  | nil => exact ⟨h, [], .nil, .nil⟩
  | @cons rt mid last e rest hstep _ ih =>
    have hc' : ∀ e ∈ rest, clock.tells (e.now + limit.period.nanos) = true :=
      fun e hmem => hc e (List.mem_cons_of_mem _ hmem)
    rcases handle_shed_or_same h he (hc e List.mem_cons_self) e.request with
      hshed | ⟨hnone, -⟩ | ⟨response, elapsed, after, hsome, hplain, hne, hl⟩
    · rw [hstep, Option.some.injEq, Prod.mk.injEq, Prod.mk.injEq] at hshed
      obtain ⟨hresponse, -, rfl⟩ := hshed
      obtain ⟨hl, plain, hs, hmatch⟩ := ih h hc'
      refine ⟨hl, plain, hs, ?_⟩
      have hshed : e.isShed = true := by rw [Exchange.isShed, hresponse]; rfl
      rw [List.filter_cons_of_neg (by rw [hshed]; nofun)]
      exact hmatch
    · rw [hstep] at hnone; cases hnone
    · rw [hstep, Option.some.injEq, Prod.mk.injEq, Prod.mk.injEq] at hsome
      obtain ⟨hresponse, helapsed, rfl⟩ := hsome
      obtain ⟨hl, plain, hs, hmatch⟩ := ih hl hc'
      refine ⟨hl, ⟨e.now, e.request.singled, response, e.elapsed⟩ :: plain, ?_, ?_⟩
      · exact .cons (by rw [hplain, helapsed]) hs
      · have hkept : e.isShed = false := by
          rw [Exchange.isShed, hresponse]
          exact decide_eq_false hne
        rw [List.filter_cons_of_pos (by rw [hkept]; rfl)]
        exact .cons ⟨rfl, rfl, hresponse, rfl⟩ hmatch

end

theorem limited_ofService {clock : Clock} {s : Service} {limit : RateLimit} :
    (ofService clock { s with rateLimit := some limit }).Limited clock limit :=
  ⟨_, rfl, Budget.working_fresh clock limit⟩

/-- **A limit sheds requests and changes little else.** Whatever is sent to a router with a limit,
take away the exchanges in which the request was shed: the router of the same service without a
limit answers the others alike, at the same instants, and has done the same with its engines in the
end. A request that would wait for ever does so there as well. A request that is shed changes
nothing. -/
theorem limit_transparent {clock : Clock} {s : Service} {limit : RateLimit}
    (he : limit.isEnabled = true) {es : List Exchange} {rt : Router}
    (hc : ∀ e ∈ es, clock.tells (e.now + limit.period.nanos) = true)
    (hs : (ofService clock { s with rateLimit := some limit }).Handles es rt) :
    ∃ plain open_, (ofService clock { s with rateLimit := none }).Handles plain open_ ∧
      List.Forall₂ Exchange.Matches (es.filter fun e => !e.isShed) plain ∧
      open_.service.executor = rt.service.executor ∧
      ∀ now r, clock.tells (now + limit.period.nanos) = true →
        (rt.handle now r = none → open_.handle now r.singled = none) ∧
        ∀ response elapsed after, rt.handle now r = some (response, elapsed, after) →
          response.status = 429 → response = turnedAway ∧ elapsed = .zero ∧ after = rt := by
  obtain ⟨hl, plain, hplain, hmatch⟩ := hs.limited limited_ofService he hc
  refine ⟨plain, rt.unlimited, hplain, hmatch, rfl, ?_⟩
  intro now r hnow
  rcases handle_shed_or_same hl he hnow r with
    hshed | ⟨hnone, hwaits⟩ | ⟨response, elapsed, after, hsome, -, hne, -⟩
  · rw [hshed]
    refine ⟨nofun, ?_⟩
    rintro response elapsed after ⟨⟩ -
    exact ⟨rfl, rfl, rfl⟩
  · rw [hnone]
    exact ⟨fun _ => hwaits, nofun⟩
  · rw [hsome]
    refine ⟨nofun, ?_⟩
    rintro _ _ _ ⟨⟩ h429
    exact absurd h429 hne

/-- The clock of a machine that has been on for a million seconds. -/
def bell : Clock := ⟨1000000000000000⟩

def gate : Service :=
  { build := default, executor := { registry := .ofList [Script.engine { id := "a" }] } }

/-- What the gate answers to a request for its engines. -/
def roster : Response := shared (.json 200 (.object [("engines", .list [.text "a"])]))

/-- A request for the engines with a slash too many. -/
def doubled : Request := { method := .get, target := "/api/v1//engines" }

/-- One request a second: the second request is shed, the third comes in the next window. -/
def queue : List Exchange :=
  [⟨0, { method := .get, target := "/api/v1/engines" }, roster, .zero⟩,
   ⟨1, { method := .get, target := "/health" }, shared gate.health.response, .zero⟩,
   ⟨2, { method := .get, target := "/api/v1/engines" }, turnedAway, .zero⟩,
   ⟨1000000000, doubled, roster, .zero⟩]

theorem limit_transparent_queue :
    RateLimit.isEnabled ⟨1, 1⟩ = true ∧
    (∀ e ∈ queue, bell.tells (e.now + (RateLimit.mk 1 1).period.nanos) = true) ∧
    ∃ rt, (ofService bell { gate with rateLimit := some ⟨1, 1⟩ }).Handles queue rt ∧
      ∃ plain open_, (ofService bell { gate with rateLimit := none }).Handles plain open_ ∧
        List.Forall₂ Exchange.Matches (queue.filter fun e => !e.isShed) plain := by
  have he : RateLimit.isEnabled ⟨1, 1⟩ = true := by decide
  have hc : ∀ e ∈ queue, bell.tells (e.now + (RateLimit.mk 1 1).period.nanos) = true := by decide
  have hs : (ofService bell { gate with rateLimit := some ⟨1, 1⟩ }).Handles queue
      ⟨{ gate with rateLimit := some ⟨1, 1⟩ }, some ⟨bell, ⟨1, 1⟩, some ⟨2000000000, 0⟩⟩⟩ :=
    .cons rfl (.cons rfl (.cons rfl (.cons rfl .nil)))
  obtain ⟨plain, open_, hplain, hmatch, -⟩ := limit_transparent he hc hs
  exact ⟨he, hc, _, hs, plain, open_, hplain, hmatch⟩

/-- Not all that is let through is answered as without a limit: a slash too many makes a
difference. -/
theorem limit_not_transparent :
    ¬ ∀ (clock : Clock) (s : Service) (limit : RateLimit) (es : List Exchange) (rt : Router),
      limit.isEnabled = true → (∀ e ∈ es, clock.tells (e.now + limit.period.nanos) = true) →
      (ofService clock { s with rateLimit := some limit }).Handles es rt →
      ∃ plain open_, (ofService clock { s with rateLimit := none }).Handles plain open_ ∧
        plain.map (fun e => (e.now, e.request, e.response)) =
          (es.filter fun e => !e.isShed).map (fun e => (e.now, e.request, e.response)) ∧
        open_.service.executor.ledger = rt.service.executor.ledger := by
  intro h
  obtain ⟨plain, open_, hplain, hsame, -⟩ := h bell gate ⟨1, 1⟩ [⟨0, doubled, roster, .zero⟩] _
    (by decide) (by decide) (.cons rfl .nil)
  cases hplain with
  | nil => cases hsame
  | @cons _ _ _ e rest hstep _ =>
    have hfirst : (e.now, e.request, e.response) = (0, doubled, roster) :=
      (List.cons.inj hsame).1
    rw [Prod.mk.injEq, Prod.mk.injEq] at hfirst
    obtain ⟨hnow, hrequest, hresponse⟩ := hfirst
    rw [hnow, hrequest, hresponse] at hstep
    -- without a limit there is nothing at that path
    have hstatus : ((ofService bell { gate with rateLimit := none }).handle 0 doubled).map
        (fun answer => answer.1.status) = some 404 := rfl
    rw [hstep] at hstatus
    cases hstatus

end TrackResolver.Http
