import TrackResolver.Proofs.Executor.Screening
import TrackResolver.Proofs.Http.Bodies
import TrackResolver.Proofs.Http.Forms
import TrackResolver.Proofs.Http.Traces

/-!
# Searches that name no engines

A request for a search need not name engines. If the service has none of its own to put in their
place, it asks all that are registered. They are looked up by their names like any other list, and
whatever was registered and taken out before, the check of the names lets them pass.

Results:
* `engines_of_decode`: a body that leaves the engines out, or gives `null` for them, names none.
* `offersAll`: what the names of all engines resolve to.
* `code?_of_search`: a search of all engines is not refused for a name.
* `all_engines_valid`: the service, and every request that names no engines.
-/
namespace TrackResolver.Http

open Json Router

/-! ## Bodies without engines -/

/-- The document at the beginning of the body leaves the engines out, or gives `null` for them. -/
def Request.NamesNoEngines (r : Request) : Prop :=
  ∀ (document rest : List UInt8) (n v : Node), r.body = document ++ rest → n.IsTreeOf document →
    n.Gives (SearchRequest.known.map Known.name) "engines" v → v = .null

section
variable {r : Request}

theorem readFirst_of_decode {α : Type} {read : Reader α} {a : α} (h : r.decode read = .ok a) :
    readFirst read r.body = .ok a := by
  unfold Request.decode at h
  split at h
  · cases h
  split at h
  · cases h
  cases hread : readFirst read r.body with
  | ok b =>
    rw [hread] at h
    cases h
    rfl
  | error why =>
    rw [hread] at h
    cases why <;> cases h

theorem engines_of_decode {q : SearchRequest} (hq : r.decode SearchRequest.read = .ok q)
    (h : r.NamesNoEngines) : q.engines = none := by
  obtain ⟨document, rest, hbody, hwhole⟩ :=
    (readFirst_eq_ok_iff (minds_readRecord _) (needsContainer_readRecord _)).1
      (readFirst_of_decode hq)
  obtain ⟨n, hn, hread⟩ := (readWhole_eq_ok_iff (minds_readRecord _)).1 hwhole
  have hsame := SearchRequest.specified.toKnows.put_of_gives List.mem_cons_self hread rfl <| by
    intro v hv
    rw [h document rest n v hbody hn hv]
    rfl
  exact (congrArg SearchRequest.engines hsame).symm

end

/-! ## All engines -/

/-- What stands for a list of engines that is left out, when the engines have this history. -/
structure Service.OffersAll (s : Service) (history : List Change) : Prop where
  stands : ∀ name, name ∈ s.enginesFor none ↔ Registry.Stands history name
  order : (s.enginesFor none).Pairwise (Registry.EntersBefore history)
  /-- Position by position, the engine that was last registered under each name. -/
  entries : s.executor.registry.entries.map (·.name) = s.enginesFor none ∧
    ∀ entry ∈ s.executor.registry.entries, Registry.Latest history entry.name entry.engine
  passes : s.enginesFor none ≠ [] →
    s.executor.registry.lineup (s.enginesFor none) = .ok s.executor.registry.entries ∧
    ∀ song c patience,
      s.executor.Races (s.enginesFor none) s.executor.registry.entries song c patience
  /-- Only if there are no engines at all. -/
  empty : s.enginesFor none = [] →
    ∀ song c patience, s.executor.search (s.enginesFor none) song c patience =
      some ⟨.refused .noEngines, .zero, s.executor⟩

section
variable {s : Service} {history : List Change}

theorem enginesFor_none (hd : s.engines = none) :
    s.enginesFor none = s.executor.registry.list := by
  unfold Service.enginesFor
  rw [hd]

theorem offersAll (hr : s.executor.registry = .after history) (hd : s.engines = none) :
    s.OffersAll history := by
  have hwf : s.executor.registry.WellFormed := hr ▸ Registry.wellFormed_after history
  have hget : ∀ name e,
      s.executor.registry.get? name = some e ↔ Registry.Latest history name e := by
    rw [hr]
    exact Registry.get?_after history
  have hnames := enginesFor_none hd
  refine ⟨?_, ?_, ⟨hnames.symm, ?_⟩, ?_, ?_⟩
  · intro name
    rw [hnames, hwf.mem_list, hr, Registry.isSome_get?_after]
  · rw [hnames, hr]
    exact Registry.pairwise_list_after history
  · intro entry hentry
    exact (hget _ _).1 (hwf.get?_eq_some.2 hentry)
  · intro hne
    rw [hnames] at hne ⊢
    have hl := hwf.lineup_list hne
    exact ⟨hl, Executor.races_of_lineup hl rfl⟩
  · intro hnil song c patience
    rw [hnil]
    rfl

/-! ## Requests -/

/-- The code of a fault is in its response. -/
theorem code?_fault (f : ApiFault) : (shared f.response).code? = some f.code := rfl

/-- Nothing else tells of names that are unknown. -/
theorem status_of_code {f : ApiFault} (h : f.code = "UNKNOWN_ENGINE") : f.status = 422 := by
  unfold ApiFault.code at h
  unfold ApiFault.status
  cases f with
  | body why => simp [ApiFault.kind] at h
  | rateLimited | unavailable => simp [ApiFault.kind] at h
  | call why =>
    cases why with
    | noEngines => simp [ApiFault.kind] at h
    | unknownEngines wrong why => rfl
    | allFailed report =>
      rw [ApiFault.kind] at h
      split at h <;> simp at h
    | engineFailed engine e => cases e <;> simp [ApiFault.kind] at h

theorem code?_of_search (hr : s.executor.registry = .after history) (hd : s.engines = none)
    {q : SearchRequest} (hq : q.engines = none) {served : Served} (h : s.search q = some served) :
    (shared served.response).code? ≠ some "UNKNOWN_ENGINE" := by
  have hreach : s.executor.registry.Reachable := ⟨history, hr⟩
  have hwf := Registry.wellFormed_of_reachable hreach
  have hn : s.enginesFor q.engines = s.executor.registry.list := by rw [hq, enginesFor_none hd]
  have hsame : ∀ {answer time}, s.Serves q answer time → served.response = answer := by
    intro answer time hserves
    obtain ⟨other, hother, hresponse, -⟩ := hserves
    rw [h, Option.some.injEq] at hother
    rw [hother, hresponse]
  rcases search_cases_of_names hreach hn with ⟨-, hserves⟩ | ⟨-, hbad, -⟩ |
    ⟨slots, -, ⟨time, f, -, hserves⟩ | ⟨-, time, hserves⟩ | ⟨-, -, hnone⟩⟩
  · rw [hsame hserves, code?_fault]
    decide
  · rcases hbad with ⟨name, hmem, hnot⟩ | hdup
    · rw [hwf.contains_eq, hwf.mem_list.1 hmem] at hnot
      cases hnot
    · exact absurd hwf.nodup hdup
  · rw [hsame hserves, Response.code?, error?_found]
    simp
  · rw [hsame hserves, code?_fault, ApiFault.code, ApiFault.kind]
    split <;> simp
  · rw [hnone] at h
    cases h

theorem code?_of_bodyless {response : Response} (h : response.body = none) :
    response.code? = none := by
  unfold Response.code? Response.error?
  rw [h]
  rfl

/-- A request for a search that names no engines is not refused for a name, wherever the answer
comes from. -/
theorem code?_of_handle {rt rt' : Router} (hr : rt.service.executor.registry = .after history)
    (hd : rt.service.engines = none) {now : Instant} {r : Request} {response : Response}
    {elapsed : Duration} (hp : rt.endpointAt? r.path = some .search) (hb : r.NamesNoEngines)
    (h : rt.handle now r = some (response, elapsed, rt')) :
    response.code? ≠ some "UNKNOWN_ENGINE" := by
  by_cases ho : r.method = .options
  · rw [Router.handle, if_pos ho, Option.some.injEq, Prod.mk.injEq] at h
    rw [← h.1, code?_of_bodyless rfl]
    simp
  obtain ⟨served, hserved, hresponse, -, -⟩ := exists_served_of_handle ho h
  rw [hresponse]
  rcases route_cases rt now r with ⟨why, hroute, hshed⟩ | hroute
  · -- the budget refuses with another status
    rw [hroute] at hserved
    cases hserved
    intro hcode
    have hstatus : (shared why.response).status = 422 := status_of_code (Option.some.inj hcode)
    rcases hshed with hshed | hshed <;> rw [hstatus] at hshed <;> simp at hshed
  rw [hroute, hp] at hserved
  by_cases hm : r.method = .post
  · rw [dispatch_post rfl hm, Endpoint.serve] at hserved
    cases hq : r.decode SearchRequest.read with
    | ok q =>
      rw [hq] at hserved
      exact code?_of_search hr hd (engines_of_decode hq hb) hserved
    | error why =>
      rw [hq] at hserved
      cases hserved
      rw [Service.refuse, code?_fault]
      simp [ApiFault.code, ApiFault.kind]
  · rw [dispatch, Endpoint.handle, if_neg (by simpa [Endpoint.isRead] using hm),
      if_neg (by simp [Endpoint.isRead])] at hserved
    cases hserved
    rw [code?_of_bodyless rfl]
    simp

/-- **All engines can be asked.** Whatever was registered and taken out, a service with no list of
its own puts the names of all engines where a request names none. They pass the check, unless there
are none, and resolve position by position to the engines that stand; and no request for a search
that names no engines is refused for a name, whatever the budget and whatever has been searched. -/
theorem all_engines_valid (hr : s.executor.registry = .after history) (hd : s.engines = none) :
    s.OffersAll history ∧
    ∀ budget now (r : Request) response elapsed rt',
      (Router.mk s budget).endpointAt? r.path = some .search → r.NamesNoEngines →
      (Router.mk s budget).handle now r = some (response, elapsed, rt') →
      response.code? ≠ some "UNKNOWN_ENGINE" := by
  refine ⟨offersAll hr hd, ?_⟩
  intro budget now r response elapsed rt' hp hb h
  exact code?_of_handle hr hd hp hb h

end

/-! ## A house of engines -/

/-- Engines come, are replaced, go, and come back. -/
def tenancies : List Change :=
  [.register (Script.engine { id := "a" }), .register (Script.engine { id := "b" }),
   .register (Script.engine { id := "c" }),
   .register (Script.engine { id := "b", search := .fail .noMatch }), .deregister "a",
   .register (Script.engine { id := "a" }), .deregister "c"]

def house : Service :=
  { build := default, executor := ⟨.after tenancies, .empty⟩, context := { mode := .orderFirst } }

theorem namesNoEngines_of_parse {r : Request}
    (h : ∀ v, (Json.parse r.body).1.Gives (SearchRequest.known.map Known.name) "engines" v →
      v = .null) : r.NamesNoEngines := by
  intro document rest n v hbody hn hv
  have hcontainer : n.IsContainer := by
    obtain ⟨m, hm, -⟩ := hv
    cases n with
    | array | object => trivial
    | _ => cases hm
  obtain ⟨⟨more, hparse⟩, -⟩ := (exists_document hcontainer).2 ⟨document, rest, hbody, hn⟩
  rw [hparse] at h
  exact h v hv

/-- Whether a value is `null`. -/
def isNull : Node → Bool
  | .null => true
  | _ => false

/-- A request for a search with `null` for its engines. -/
def openCall : Request := note "\x7b\"engines\":null,\"song\":\x7b\"name\":\"x\"\x7d\x7d"

theorem namesNoEngines_openCall : openCall.NamesNoEngines := by
  have hgiven : (((Json.parse openCall.body).1.given (SearchRequest.known.map Known.name)).all
      fun m => (readName m.1).toOption ≠ some "engines" ∨ isNull m.2) = true := by
    decide +kernel
  refine namesNoEngines_of_parse ?_
  intro v ⟨m, hm, hname, hv⟩
  have hnull := List.all_eq_true.1 hgiven m hm
  rw [hname, hv] at hnull
  cases v with
  | null => rfl
  | _ => simp [Except.toOption, isNull] at hnull

theorem all_engines_valid_house :
    house.executor.registry = .after tenancies ∧ house.engines = none ∧
    house.enginesFor none = ["b", "a"] ∧
    house.executor.registry.lineup ["b", "a"] = .ok house.executor.registry.entries ∧
    openCall.NamesNoEngines ∧ ∃ response elapsed rt',
      (Router.mk house none).handle 0 openCall = some (response, elapsed, rt') ∧
        response.code? ≠ some "UNKNOWN_ENGINE" := by
  have hr : house.executor.registry = .after tenancies := rfl
  have hd : house.engines = none := rfl
  have hnames : house.enginesFor none = ["b", "a"] := rfl
  obtain ⟨hoffers, hrequests⟩ := all_engines_valid hr hd
  obtain ⟨hlineup, -⟩ := hoffers.passes (by rw [hnames]; simp)
  rw [hnames] at hlineup
  have hsome : ((Router.mk house none).handle 0 openCall).isSome = true := by decide +kernel
  obtain ⟨⟨response, elapsed, rt'⟩, hhandle⟩ := Option.isSome_iff_exists.1 hsome
  have hp : (Router.mk house none).endpointAt? openCall.path = some .search := by decide
  exact ⟨hr, hd, hnames, hlineup, namesNoEngines_openCall, response, elapsed, rt', hhandle,
    hrequests none 0 openCall response elapsed rt' hp namesNoEngines_openCall hhandle⟩

end TrackResolver.Http
