import TrackResolver.Http.Router
import TrackResolver.Proofs.Search.Decision

/-!
# A search that a request asks for

The names, the context, the check of the names, the policy and the table of faults together decide
what a request for a search is answered.

Results:
* `handle_search`: a request for a search that is admitted and decodes gets the answer of the
  service, as it may be read from anywhere.
* `search_cases_of_names`: what the service makes of it.
* `search_answer`: which response a request gets, and when it gets one.
-/
namespace TrackResolver

open Slot

/-- The member of an object that stands under this name. -/
def Json.Value.member? (v : Json.Value) (name : String) : Option Json.Value :=
  match v with
  | .object members => (members.find? (·.1 = name)).map (·.2)
  | _ => none

namespace Http

/-- What the error of a response says under this name. -/
def Response.error? (r : Response) (name : String) : Option Json.Value :=
  (r.body.bind (·.member? "error")).bind (·.member? name)

/-- The response is a refusal with this status and code. -/
def Response.Refuses (r : Response) (status : Nat) (code : String) : Prop :=
  r.status = status ∧ r.error? "code" = some (.text code)

/-! ## The names and the slots of a search -/

/-- The engines that a request asks for: those of its own list, even of an empty one, or else those
of the service, or else all. -/
inductive Service.Asks (s : Service) (q : SearchRequest) : List String → Prop
  | own {names : List String} (h : q.engines = some names) : s.Asks q names
  | configured {names : List String} (h : q.engines = none) (hs : s.engines = some names) :
    s.Asks q names
  | all (h : q.engines = none) (hs : s.engines = none) : s.Asks q s.executor.registry.list

/-- The search of a request over these names starts these slots. -/
def Service.Starts (s : Service) (q : SearchRequest) (names : List String) (slots : List Slot) :
    Prop :=
  ∃ lineup, s.executor.registry.lineup names = .ok lineup ∧
    launch lineup q.song (s.contextFor q.context) = slots

/-- The policy of the context of a request commits to `f` at `time`. -/
def Service.Picks (s : Service) (q : SearchRequest) (slots : List Slot) (time : Duration)
    (f : Found) : Prop :=
  Commits (s.contextFor q.context).mode slots time f

section
variable {s : Service} {q : SearchRequest} {names : List String} {slots : List Slot}

theorem Service.Asks.eq (h : s.Asks q names) : s.enginesFor q.engines = names := by
  cases h with
  | own h => simp only [enginesFor, h]
  | configured h hs => simp only [enginesFor, h, hs]
  | all h hs => simp only [enginesFor, h, hs]

theorem Service.Starts.unique {others : List Slot} (h : s.Starts q names slots)
    (h' : s.Starts q names others) : slots = others := by
  obtain ⟨lineup, hl, rfl⟩ := h
  obtain ⟨lineup', hl', rfl⟩ := h'
  rw [hl, Except.ok.injEq] at hl'
  rw [hl']

/-- A search starts exactly if its names can be used. -/
theorem Service.exists_starts_iff (hr : s.executor.registry.Reachable) :
    (∃ slots, s.Starts q names slots) ↔
      names ≠ [] ∧ (∀ name ∈ names, s.executor.registry.contains name = true) ∧ names.Nodup := by
  have hwf := Registry.wellFormed_of_reachable hr
  constructor
  · rintro ⟨slots, lineup, hl, -⟩
    obtain ⟨hne, hn, hnames, hget⟩ := (Registry.lineup_eq_ok_iff hwf).1 hl
    exact ⟨hne, fun name hname => Registry.contains_of_resolved hget (hnames ▸ hname), hn⟩
  · rintro ⟨hne, hc, hn⟩
    rcases s.executor.registry.lineup_cases names with ⟨hnil, -⟩ | ⟨-, hbad, -⟩ |
      ⟨-, -, -, lineup, hl⟩
    · exact absurd hnil hne
    · rcases hbad with ⟨name, hmem, hnot⟩ | hdup
      · rw [hc name hmem] at hnot; cases hnot
      · exact absurd hn hdup
    · exact ⟨_, lineup, hl, rfl⟩

theorem Service.Starts.engines (hr : s.executor.registry.Reachable) (h : s.Starts q names slots) :
    slots.map (·.engine) = names := by
  obtain ⟨lineup, hl, rfl⟩ := h
  exact launch_engines hr hl _ _

theorem Service.Starts.nodup (hr : s.executor.registry.Reachable) (h : s.Starts q names slots) :
    (slots.map (·.engine)).Nodup := by
  obtain ⟨lineup, hl, rfl⟩ := h
  exact launch_engines_nodup hr hl _ _

theorem Service.Starts.ne_nil (hr : s.executor.registry.Reachable) (h : s.Starts q names slots) :
    slots ≠ [] := by
  obtain ⟨lineup, hl, rfl⟩ := h
  exact launch_ne_nil hr hl _ _

end

/-! ## What the service makes of a request -/

/-- The search of a request has the response `answer`, and takes `time`. -/
def Service.Serves (s : Service) (q : SearchRequest) (answer : Response) (time : Duration) : Prop :=
  ∃ served, s.search q = some served ∧ served.response = answer ∧ served.elapsed = time

section
variable {s : Service} {q : SearchRequest} {names : List String}

/-- Names that are refused leave the service as it is. -/
theorem search_of_refused {why : CallError}
    (hl : s.executor.registry.lineup (s.enginesFor q.engines) = .error why) :
    s.search q = some ⟨(ApiFault.call why).response, .zero, s⟩ := by
  rw [Service.search, Executor.search, hl]
  rfl

theorem serves_of_refused (hn : s.enginesFor q.engines = names) {why : CallError}
    (hl : s.executor.registry.lineup names = .error why) :
    s.Serves q (ApiFault.call why).response .zero :=
  ⟨_, search_of_refused (hn ▸ hl), rfl, rfl⟩

/-- The five ends of a search: its names are refused, for one of two reasons, or a winner is
committed, or every engine fails; or there is no end. -/
theorem search_cases_of_names (hr : s.executor.registry.Reachable)
    (hn : s.enginesFor q.engines = names) :
    (names = [] ∧ s.Serves q (ApiFault.call .noEngines).response .zero) ∨
    (names ≠ [] ∧ ((∃ name ∈ names, s.executor.registry.contains name = false) ∨ ¬ names.Nodup) ∧
      ∃ wrong why, s.Serves q (ApiFault.call (.unknownEngines wrong why)).response .zero) ∨
    ∃ slots, s.Starts q names slots ∧
      ((∃ time f, s.Picks q slots time f ∧ s.Serves q (.json 200 f.toJson) time) ∨
      ((∀ slot ∈ slots, slot.Failed) ∧
        ∃ time, s.Serves q (ApiFault.call (.allFailed ⟨failuresOf slots⟩)).response time) ∨
      ((∀ time f, ¬ s.Picks q slots time f) ∧ (¬ ∀ slot ∈ slots, slot.Failed) ∧
        s.search q = none)) := by
  rcases s.executor.registry.lineup_cases names with ⟨hnil, hl⟩ | ⟨hne, hbad, wrong, why, hl⟩ |
    ⟨-, -, -, lineup, hl⟩
  · exact Or.inl ⟨hnil, serves_of_refused hn hl⟩
  · exact Or.inr (Or.inl ⟨hne, hbad, wrong, why, serves_of_refused hn hl⟩)
  refine Or.inr (Or.inr ⟨_, ⟨lineup, hl, rfl⟩, ?_⟩)
  cases hs : settle (s.contextFor q.context).mode
    (launch lineup q.song (s.contextFor q.context)) with
  | pending =>
    have hsearch := (staysPending_of_settle hl hs).1
    refine Or.inr (Or.inr ⟨?_, ?_, by rw [Service.search, hn, hsearch]; rfl⟩)
    · intro time f hf
      rw [(settle_launch_ok_iff hr hl).2 hf] at hs
      cases hs
    · intro hall
      obtain ⟨time, hsettle⟩ := exists_settle_of_failed hr hl hall
      rw [hsettle] at hs
      cases hs
  | settled time result =>
    have hsearch := search_settled hl hs (awaits_none time)
    cases result with
    | ok f =>
      exact Or.inl ⟨time, f, (settle_launch_ok_iff hr hl).1 hs, _,
        by rw [Service.search, hn, hsearch]; rfl, rfl, rfl⟩
    | error report =>
      obtain ⟨hall, -, rfl⟩ := (settle_launch_error_iff hr hl).1 hs
      exact Or.inr (Or.inl ⟨hall, time, _, by rw [Service.search, hn, hsearch]; rfl, rfl, rfl⟩)

end

/-! ## The request -/

open Router

/-- The path leads to this endpoint, whether there is a limit or not. -/
structure LeadsTo (path : List Char) (e : Endpoint) : Prop where
  plain : endpoint? path = some e
  limited : ∃ below, limitedPath? path = some below ∧ apiEndpoint? below = some e

theorem leadsTo_search : LeadsTo "/api/v1/search".toList .search := ⟨rfl, _, rfl, rfl⟩

theorem leadsTo_retrieve : LeadsTo "/api/v1/retrieve".toList .retrieve := ⟨rfl, _, rfl, rfl⟩

section
variable {rt : Router} {now : Instant} {r : Request} {e : Endpoint}

theorem dispatch_post (he : e.isRead = false) (hm : r.method = .post) (s : Service) :
    dispatch (some e) s r = e.serve s r := by
  rw [dispatch, Endpoint.handle, if_pos (by rw [he]; exact hm)]

/-- A request that is admitted gets the answer of the endpoint. -/
theorem handle_admitted (he : e.isRead = false) (hm : r.method = .post) (hp : LeadsTo r.path e)
    (hb : ∀ b ∈ rt.budget, (b.request now).1 = .admitted) :
    rt.handle now r = (e.serve rt.service r).map fun served =>
      (shared served.response, served.elapsed,
        ⟨served.after, rt.budget.map fun b => (b.request now).2⟩) := by
  have hroute : rt.route now r =
      (e.serve rt.service r, rt.budget.map fun b => (b.request now).2) := by
    rw [← dispatch_post he hm]
    cases hbudget : rt.budget with
    | none => simp only [route, hbudget, hp.plain, Option.map_none]
    | some b =>
      obtain ⟨below, hbelow, hend⟩ := hp.limited
      have hadmitted := hb b hbudget
      simp only [route, hbudget, hbelow, hadmitted, Verdict.fault?, hend, Option.map_some]
  rw [Router.handle, if_neg (by rw [hm]; nofun), hroute]

/-- A request for a search that is admitted and decodes gets the answer of the service. -/
theorem handle_search {q : SearchRequest} (hm : r.method = .post)
    (hp : r.path = "/api/v1/search".toList) (hb : ∀ b ∈ rt.budget, (b.request now).1 = .admitted)
    (hq : r.decode SearchRequest.read = .ok q) :
    rt.handle now r = (rt.service.search q).map fun served =>
      (shared served.response, served.elapsed,
        ⟨served.after, rt.budget.map fun b => (b.request now).2⟩) := by
  rw [handle_admitted rfl hm (hp ▸ leadsTo_search) hb, Endpoint.serve, hq]

end

/-! ## The table of responses -/

/-- What a response to a search over `names` says, case by case. -/
structure SearchReply (s : Service) (q : SearchRequest) (names : List String)
    (response : Response) : Prop where
  empty : response.Refuses 422 "EMPTY_ENGINE_LIST" ↔ names = []
  unknown : response.Refuses 422 "UNKNOWN_ENGINE" ↔ names ≠ [] ∧
    ((∃ name ∈ names, s.executor.registry.contains name = false) ∨ ¬ names.Nodup)
  found : response.status = 200 ↔
    ∃ slots time f, s.Starts q names slots ∧ s.Picks q slots time f
  result : ∀ slots time f, s.Starts q names slots → s.Picks q slots time f →
    response.body = some f.toJson
  noMatch : response.Refuses 404 "NO_MATCH" ↔ ∃ slots, s.Starts q names slots ∧
    ∀ slot ∈ slots, ∃ time, slot.Fails time .noMatch
  allFailed : response.Refuses 502 "ALL_ENGINES_FAILED" ↔ ∃ slots, s.Starts q names slots ∧
    (∀ slot ∈ slots, slot.Failed) ∧ ∃ slot ∈ slots, ∃ time e, slot.Fails time e ∧ e ≠ .noMatch
  /-- Failures are listed only if every engine failed. -/
  listed : (response.error? "failures").isSome = true ↔
    ∃ slots, s.Starts q names slots ∧ ∀ slot ∈ slots, slot.Failed
  /-- The entries stand in the order of the request. -/
  failures : ∀ slots, s.Starts q names slots → (∀ slot ∈ slots, slot.Failed) →
    ∃ entries, response.error? "failures" = some (.list entries) ∧
      entries.length = names.length ∧
      ∀ (k : Nat) (slot : Slot) time e, slots[k]? = some slot → slot.Fails time e →
        entries[k]? = some (.object [("engine", .text slot.engine), ("kind", .text e.kind),
          ("message", .text e.message)])

theorem error?_code (f : ApiFault) :
    (shared f.response).error? "code" = some (.text f.code) := rfl

theorem error?_failures (f : ApiFault) : (shared f.response).error? "failures" =
    f.failures?.map fun l => .list (l.map FailureSummary.toJson) := by
  show Json.Value.member? (.object ([("code", .text f.code), ("message", .text f.message)] ++
    Json.Value.optional "failures" _ f.failures?)) "failures" = _
  cases f.failures? <;> rfl

theorem refuses_iff (f : ApiFault) (status : Nat) (code : String) :
    (shared f.response).Refuses status code ↔ f.kind = (status, code) := by
  rw [Response.Refuses, error?_code, Prod.ext_iff, Option.some.injEq, Json.Value.text.injEq]
  rfl

/-- A result says nothing of an error. -/
theorem error?_found (f : Found) (name : String) :
    (shared (.json 200 f.toJson)).error? name = none := by
  have hnone : f.toJson.member? "error" = none := by
    obtain ⟨source, identifier, song, link⟩ := f
    cases song <;> cases link <;> rfl
  show (f.toJson.member? "error").bind _ = none
  rw [hnone]
  rfl

section
variable {s : Service} {q : SearchRequest} {names : List String} {slots : List Slot}

/-- The names are refused, so no search starts. -/
theorem SearchReply.of_refused (hno : ∀ slots, ¬ s.Starts q names slots) {fault : ApiFault}
    {code : String} (hkind : fault.kind = (422, code)) (hlist : fault.failures? = none)
    (hempty : code = "EMPTY_ENGINE_LIST" ↔ names = [])
    (hunknown : code = "UNKNOWN_ENGINE" ↔ names ≠ [] ∧
      ((∃ name ∈ names, s.executor.registry.contains name = false) ∨ ¬ names.Nodup)) :
    SearchReply s q names (shared fault.response) where
  empty := by rw [refuses_iff, hkind, Prod.mk.injEq, ← hempty]; exact and_iff_right rfl
  unknown := by rw [refuses_iff, hkind, Prod.mk.injEq, ← hunknown]; exact and_iff_right rfl
  found := by
    refine iff_of_false ?_ fun ⟨slots, _, _, hs, _⟩ => hno slots hs
    show fault.kind.1 ≠ 200
    rw [hkind]
    nofun
  result := fun slots _ _ hs => absurd hs (hno slots)
  noMatch := by
    refine iff_of_false ?_ fun ⟨slots, hs, _⟩ => hno slots hs
    rw [refuses_iff, hkind]
    nofun
  allFailed := by
    refine iff_of_false ?_ fun ⟨slots, hs, _⟩ => hno slots hs
    rw [refuses_iff, hkind]
    nofun
  listed := by
    refine iff_of_false ?_ fun ⟨slots, hs, _⟩ => hno slots hs
    rw [error?_failures, hlist]
    nofun
  failures := fun slots hs => absurd hs (hno slots)

/-- A search that has started was over names that can be used. -/
theorem Service.Starts.usable (hr : s.executor.registry.Reachable) (h : s.Starts q names slots) :
    ¬ names = [] ∧ ¬ (names ≠ [] ∧
      ((∃ name ∈ names, s.executor.registry.contains name = false) ∨ ¬ names.Nodup)) := by
  obtain ⟨hne, hc, hn⟩ := (Service.exists_starts_iff hr).1 ⟨slots, h⟩
  refine ⟨hne, ?_⟩
  rintro ⟨-, ⟨name, hmem, hnot⟩ | hdup⟩
  · rw [hc name hmem] at hnot; cases hnot
  · exact hdup hn

theorem SearchReply.of_found (hr : s.executor.registry.Reachable) (hs : s.Starts q names slots)
    {time : Duration} {f : Found} (hf : s.Picks q slots time f) :
    SearchReply s q names (shared (.json 200 f.toJson)) := by
  have hnot : ∀ slots, s.Starts q names slots → ¬ ∀ slot ∈ slots, slot.Failed := by
    intro others h
    rw [← hs.unique h]
    exact hf.not_failed
  have hcode : ∀ status code, ¬ (shared (.json 200 f.toJson)).Refuses status code := by
    rintro status code ⟨-, h⟩
    rw [error?_found] at h
    cases h
  obtain ⟨hne, hgood⟩ := hs.usable hr
  refine ⟨?_, ?_, ?_, ?_, ?_, ?_, ?_, ?_⟩
  · exact iff_of_false (hcode _ _) hne
  · exact iff_of_false (hcode _ _) hgood
  · exact iff_of_true rfl ⟨slots, time, f, hs, hf⟩
  · intro others u g h hg
    rw [← hs.unique h] at hg
    rw [← (Commits.unique (List.Nodup.of_map _ (hs.nodup hr)) hf hg).2]
    rfl
  · refine iff_of_false (hcode _ _) ?_
    rintro ⟨others, h, hall⟩
    exact hnot others h fun slot hslot =>
      let ⟨t, ht⟩ := hall slot hslot
      ⟨t, _, ht⟩
  · refine iff_of_false (hcode _ _) ?_
    rintro ⟨others, h, hall, -⟩
    exact hnot others h hall
  · refine iff_of_false (by rw [error?_found]; nofun) ?_
    rintro ⟨others, h, hall⟩
    exact hnot others h hall
  · exact fun others h hall => absurd hall (hnot others h)

theorem kind_allFailed (report : FailureReport) : (ApiFault.call (.allFailed report)).kind =
    if report.allNoMatch then (404, "NO_MATCH") else (502, "ALL_ENGINES_FAILED") := rfl

section
variable (hne : slots ≠ []) (hall : ∀ slot ∈ slots, slot.Failed)
include hne hall

theorem refuses_noMatch_iff :
    (shared (ApiFault.call (.allFailed ⟨failuresOf slots⟩)).response).Refuses 404 "NO_MATCH" ↔
      ∀ slot ∈ slots, ∃ time, slot.Fails time .noMatch := by
  rw [refuses_iff, kind_allFailed, ← allNoMatch_failuresOf hne hall]
  split
  · next hno => exact iff_of_true rfl hno
  · next hno => exact iff_of_false (by nofun) hno

theorem refuses_allFailed_iff :
    (shared (ApiFault.call (.allFailed ⟨failuresOf slots⟩)).response).Refuses 502
        "ALL_ENGINES_FAILED" ↔
      ∃ slot ∈ slots, ∃ time e, slot.Fails time e ∧ e ≠ .noMatch := by
  have hmatch := allNoMatch_failuresOf hne hall
  rw [refuses_iff, kind_allFailed]
  split
  · next hno =>
    refine iff_of_false (by nofun) ?_
    rintro ⟨slot, hslot, time, e, hf, he⟩
    obtain ⟨u, hu⟩ := hmatch.1 hno slot hslot
    exact he (hf.unique hu).2
  · next hno =>
    refine iff_of_true rfl ?_
    rw [hmatch] at hno
    simp only [not_forall, not_exists] at hno
    obtain ⟨slot, hslot, hno⟩ := hno
    obtain ⟨time, e, hf⟩ := hall slot hslot
    exact ⟨slot, hslot, time, e, hf, fun he => hno time (he ▸ hf)⟩

end

theorem SearchReply.of_failed (hr : s.executor.registry.Reachable) (hs : s.Starts q names slots)
    (hall : ∀ slot ∈ slots, slot.Failed) :
    SearchReply s q names (shared (ApiFault.call (.allFailed ⟨failuresOf slots⟩)).response) := by
  have hsame : ∀ {others}, s.Starts q names others → others = slots := fun h => h.unique hs
  have hnonempty := hs.ne_nil hr
  obtain ⟨hne, hgood⟩ := hs.usable hr
  refine ⟨?_, ?_, ?_, ?_, ?_, ?_, ?_, ?_⟩
  · refine iff_of_false ?_ hne
    rw [refuses_iff, kind_allFailed]
    split <;> nofun
  · refine iff_of_false ?_ hgood
    rw [refuses_iff, kind_allFailed]
    split <;> nofun
  · refine iff_of_false ?_ ?_
    · show (ApiFault.call (.allFailed ⟨failuresOf slots⟩)).kind.1 ≠ 200
      rw [kind_allFailed]
      split <;> nofun
    · rintro ⟨others, t, f, h, hf⟩
      exact hf.not_failed (hsame h ▸ hall)
  · exact fun others t f h hf => absurd (hsame h ▸ hall) hf.not_failed
  · rw [refuses_noMatch_iff hnonempty hall]
    exact ⟨fun hno => ⟨slots, hs, hno⟩, fun ⟨others, h, hno⟩ => hsame h ▸ hno⟩
  · rw [refuses_allFailed_iff hnonempty hall]
    exact ⟨fun hsome => ⟨slots, hs, hall, hsome⟩, fun ⟨others, h, _, hsome⟩ => hsame h ▸ hsome⟩
  · exact iff_of_true (by rw [error?_failures]; rfl) ⟨slots, hs, hall⟩
  · intro others h _
    obtain rfl := hsame h
    refine ⟨_, by rw [error?_failures]; rfl, ?_, ?_⟩
    · rw [List.length_map, FailureReport.summaries, List.length_map]
      have hlen := congrArg List.length (map_fst_failures hall)
      rw [List.length_map] at hlen
      rw [hlen, hs.engines hr]
    · intro k slot t e hk hf
      rw [List.getElem?_map, FailureReport.summaries, List.getElem?_map,
        getElem?_failures hall hk hf]
      rfl

/-- A request for a search gets its `SearchReply`, or its search goes on for ever. -/
theorem replies_or_pends (hr : s.executor.registry.Reachable)
    (hn : s.enginesFor q.engines = names) :
    (∃ answer time, s.Serves q answer time ∧ SearchReply s q names (shared answer) ∧
      ∀ slots, s.Starts q names slots →
        (∃ time f, s.Picks q slots time f) ∨ ∀ slot ∈ slots, slot.Failed) ∨
    (s.search q = none ∧ ∃ slots, s.Starts q names slots ∧
      (¬ ∃ time f, s.Picks q slots time f) ∧ ¬ ∀ slot ∈ slots, slot.Failed) := by
  have husable : ∀ slots, s.Starts q names slots → names ≠ [] ∧
      (∀ name ∈ names, s.executor.registry.contains name = true) ∧ names.Nodup :=
    fun slots hs => (Service.exists_starts_iff hr).1 ⟨slots, hs⟩
  rcases search_cases_of_names hr hn with ⟨hnil, hserves⟩ | ⟨hne, hbad, wrong, why, hserves⟩ |
    ⟨slots, hs, ⟨time, f, hf, hserves⟩ | ⟨hall, time, hserves⟩ | ⟨hpicks, hall, hsearch⟩⟩
  · have hno : ∀ slots, ¬ s.Starts q names slots := fun slots hs => (husable slots hs).1 hnil
    refine Or.inl ⟨_, _, hserves, .of_refused hno rfl rfl (iff_of_true rfl hnil) ?_,
      fun slots hs => absurd hs (hno slots)⟩
    exact iff_of_false (by decide) fun h => h.1 hnil
  · have hno : ∀ slots, ¬ s.Starts q names slots :=
      fun slots hs => (hs.usable hr).2 ⟨hne, hbad⟩
    exact Or.inl ⟨_, _, hserves,
      .of_refused hno rfl rfl (iff_of_false (by decide) hne) (iff_of_true rfl ⟨hne, hbad⟩),
      fun slots hs => absurd hs (hno slots)⟩
  · exact Or.inl ⟨_, _, hserves, .of_found hr hs hf,
      fun others h => Or.inl (hs.unique h ▸ ⟨time, f, hf⟩)⟩
  · exact Or.inl ⟨_, _, hserves, .of_failed hr hs hall,
      fun others h => Or.inr (hs.unique h ▸ hall)⟩
  · refine Or.inr ⟨hsearch, slots, hs, ?_, hall⟩
    rintro ⟨time, f, hf⟩
    exact hpicks time f hf

end

/-- **A search over the wire.** A request for a search that is admitted and decodes is over its own
names, those of the service, or all. The search starts exactly if they can be used; there is a
response unless it goes on for ever, and so there is one if every engine resolves. And the response
is `SearchReply`. -/
theorem search_answer {rt : Router} {now : Instant} {r : Request} {q : SearchRequest}
    {names : List String} (hr : rt.service.executor.registry.Reachable) (hm : r.method = .post)
    (hp : r.path = "/api/v1/search".toList)
    (hb : ∀ b ∈ rt.budget, (b.request now).1 = .admitted)
    (hq : r.decode SearchRequest.read = .ok q) (hn : rt.service.Asks q names) :
    ((∃ slots, rt.service.Starts q names slots) ↔ names ≠ [] ∧
      (∀ name ∈ names, rt.service.executor.registry.contains name = true) ∧ names.Nodup) ∧
    (∀ slots, rt.service.Starts q names slots → slots.map (·.engine) = names) ∧
    ((∃ answer, rt.handle now r = some answer) ↔ ∀ slots, rt.service.Starts q names slots →
      (∃ time f, rt.service.Picks q slots time f) ∨ ∀ slot ∈ slots, slot.Failed) ∧
    ((∀ slots, rt.service.Starts q names slots → ∀ slot ∈ slots, ¬ slot.Hangs) →
      ∃ answer, rt.handle now r = some answer) ∧
    ∀ response elapsed after, rt.handle now r = some (response, elapsed, after) →
      SearchReply rt.service q names response := by
  have hhandle := handle_search hm hp hb hq
  have hreply : ((∃ answer, rt.handle now r = some answer) ↔
        ∀ slots, rt.service.Starts q names slots →
          (∃ time f, rt.service.Picks q slots time f) ∨ ∀ slot ∈ slots, slot.Failed) ∧
      ∀ response elapsed after, rt.handle now r = some (response, elapsed, after) →
        SearchReply rt.service q names response := by
    rcases replies_or_pends hr hn.eq with ⟨-, -, ⟨served, hserved, rfl, rfl⟩, hreply, hends⟩ |
      ⟨hnone, slots, hs, hpicks, hall⟩
    · rw [hserved] at hhandle
      refine ⟨iff_of_true ⟨_, hhandle⟩ hends, ?_⟩
      intro response elapsed after h
      rw [hhandle] at h
      cases h
      exact hreply
    · rw [hnone] at hhandle
      refine ⟨iff_of_false (by rw [hhandle]; nofun) fun hends => ?_, by rw [hhandle]; nofun⟩
      exact (hends slots hs).elim hpicks hall
  refine ⟨Service.exists_starts_iff hr, fun slots hs => hs.engines hr, hreply.1, ?_, hreply.2⟩
  intro hresolve
  exact hreply.1.2 fun slots hs =>
    commits_or_failed (List.Nodup.of_map _ (hs.nodup hr)) (hresolve slots hs)

/-- A service that admits one request a second, over an engine that finds nothing and one that
answers in its name. -/
def desk : Router := .ofService ⟨0⟩
  { build := default
    executor := .ofScripts
      [{ id := "mute", after := .ofMillis 3, search := .fail .noMatch },
       { id := "fake", after := .ofMillis 1, search := .pose "mute" }]
    engines := some ["fake", "mute"]
    rateLimit := some ⟨1, 1⟩ }

/-- A request for a search by the engines of the service. -/
def inquiry : Request where
  method := .post
  target := "/api/v1/search"
  headers := [("content-type", "application/json")]
  body := "\x7b\"song\": \x7b\"name\": \"x\"\x7d, \"context\": \x7b\"flac\": null\x7d\x7d".toUTF8.toList

/-- The two engines at the desk. -/
def clerks : List Slot :=
  [⟨"fake", .finishes (.ofMillis 1)
      (.answered (.ok { source := "mute", identifier := "fake-track" }))⟩,
   ⟨"mute", .finishes (.ofMillis 3) (.answered (.error .noMatch))⟩]

theorem search_answer_desk :
    desk.service.executor.registry.Reachable ∧ inquiry.method = .post ∧
    inquiry.path = "/api/v1/search".toList ∧
    (∀ b ∈ desk.budget, (b.request 0).1 = .admitted) ∧
    ∃ q, inquiry.decode SearchRequest.read = .ok q ∧ desk.service.Asks q ["fake", "mute"] ∧
      ∃ response elapsed after, desk.handle 0 inquiry = some (response, elapsed, after) ∧
        response.Refuses 502 "ALL_ENGINES_FAILED" ∧
        ∃ entries, response.error? "failures" = some (.list entries) ∧ entries.length = 2 ∧
          entries[1]? = some (.object [("engine", .text "mute"), ("kind", .text "no_match"),
            ("message", .text "No matched song")]) := by
  have hr : desk.service.executor.registry.Reachable := Executor.reachable_ofScripts _
  have hp : inquiry.path = "/api/v1/search".toList := by decide
  have hb : ∀ b ∈ desk.budget, (b.request 0).1 = .admitted := by rintro b ⟨⟩; decide
  have hread :
      ((inquiry.decode SearchRequest.read).toOption.any fun q => q.engines.isNone) = true := by
    decide +kernel
  cases hq : inquiry.decode SearchRequest.read with
  | error why => rw [hq] at hread; cases hread
  | ok q =>
    rw [hq] at hread
    have hn : desk.service.Asks q ["fake", "mute"] :=
      .configured (Option.isNone_iff_eq_none.1 hread) rfl
    obtain ⟨-, -, -, hends, hreply⟩ := search_answer hr rfl hp hb hq hn
    have hs : desk.service.Starts q ["fake", "mute"] clerks := ⟨_, rfl, rfl⟩
    have hfake : clerks[0].Fails (.ofMillis 1) (.sourceMismatch "fake" "mute") := by
      have hne : "mute" ≠ "fake" := by decide
      exact .foreign (f := { source := "mute", identifier := "fake-track" }) rfl hne
    have hmute : clerks[1].Fails (.ofMillis 3) .noMatch := .own rfl
    have hall : ∀ slot ∈ clerks, slot.Failed := by
      intro slot hslot
      rcases List.mem_cons.1 hslot with rfl | hslot
      · exact ⟨_, _, hfake⟩
      · rw [List.mem_singleton.1 hslot]
        exact ⟨_, _, hmute⟩
    obtain ⟨⟨response, elapsed, after⟩, hsome⟩ := hends fun slots h slot hslot =>
      (hall slot (h.unique hs ▸ hslot)).not_hangs
    have hsays := hreply response elapsed after hsome
    obtain ⟨entries, hentries, hlen, hentry⟩ := hsays.failures clerks hs hall
    exact ⟨hr, rfl, hp, hb, q, rfl, hn, response, elapsed, after, hsome,
      hsays.allFailed.2 ⟨clerks, hs, hall, clerks[0], List.mem_cons_self, _, _, hfake, nofun⟩,
      entries, hentries, hlen, hentry 1 _ _ _ rfl hmute⟩

end Http

end TrackResolver
