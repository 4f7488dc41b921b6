import TrackResolver.Proofs.Http.Limit

/-!
# Requests that come to a limit

A request is counted if it is not OPTIONS and its path is the base or below it. Each counted request
is put before the budget, and its verdict says what the request is answered.

A request may come before earlier ones are answered, and a search may go on for ever; the budget is
charged when a request comes.

Results:
* `isSome_limitedPath?`: the requests that are counted are those that draw from the budget.
* `handle_not_counted`: a request that is not counted has nothing to do with the budget.
* `budgetAfter_counted`, `answers_of_handle`: one that is leaves it charged, and is answered by its
  verdict.
* `Receives.treats`: a run from any budget.
-/
namespace TrackResolver.Http

open Router

/-! ## Requests that are counted -/

/-- Whether the request draws from the budget. -/
def Request.isCounted (r : Request) : Bool :=
  r.method ≠ .options ∧ (r.path = base ∨ base ++ ['/'] <+: r.path)

theorem belowBase?_eq_some {path below : List Char} :
    belowBase? path = some below ↔ path = base ++ below := by
  constructor
  · intro h
    rw [belowBase?] at h
    split at h
    · next hprefix =>
      obtain ⟨rest, rfl⟩ := List.isPrefixOf_iff_prefix.1 hprefix
      rw [List.drop_left, Option.some.injEq] at h
      rw [h]
    · cases h
  · rintro rfl
    exact belowBase?_append below

/-- What is handed on is the base and what is below it. -/
theorem isSome_limitedPath? {path : List Char} :
    (limitedPath? path).isSome = true ↔ path = base ∨ base ++ ['/'] <+: path := by
  cases hbelow : belowBase? path with
  | none =>
    have hno : ∀ below, base ++ below ≠ path := by
      rintro below rfl
      rw [belowBase?_append] at hbelow
      cases hbelow
    simp only [limitedPath?, hbelow]
    refine iff_of_false (by simp) ?_
    rintro (rfl | ⟨rest, rfl⟩)
    · exact hno [] (List.append_nil _)
    · exact hno ('/' :: rest) (by simp)
  | some below =>
    obtain rfl := belowBase?_eq_some.1 hbelow
    simp only [limitedPath?, hbelow, List.prefix_append_right_inj]
    cases below with
    | nil => simp
    | cons c rest =>
      by_cases hc : c = '/'
      · subst hc
        simp only [List.cons_prefix_cons, List.nil_prefix, and_self, or_true, iff_true]
        split <;> first | rfl | simp_all
      · simp [hc, Ne.symm hc]

/-! ## Requests that come -/

/-- A request that comes to a router, and the response if it ever gets one. -/
structure Arrival where
  now : Instant
  request : Request
  response : Option Response

namespace Arrival

/-- Whether the request draws from the budget. -/
def isCounted (a : Arrival) : Bool := a.request.isCounted

/-- Whether the request is shed. -/
def isShed (a : Arrival) : Bool := a.response.any (·.status = 429)

/-- Whether the request is told that the service is unavailable. -/
def isLost (a : Arrival) : Bool := a.response.any (·.status = 503)

def isBefore (time : Instant) (a : Arrival) : Bool := a.now < time

end Arrival

/-- The budget when a request has come, be it answered or not. -/
def Router.budgetAfter (rt : Router) (now : Instant) (r : Request) : Option Budget :=
  if r.method = .options then rt.budget else (rt.route now r).2

/-- Requests come one after another. The budget is handed on from one to the next; what has become
of the service in the meantime is left open, for earlier requests may still be waiting. -/
inductive Router.Receives : Router → List Arrival → Prop
  | nil {rt : Router} : rt.Receives []
  | cons {rt : Router} {a : Arrival} {rest : List Arrival} (s : Service)
    (h : (rt.handle a.now a.request).map (·.1) = a.response)
    (hs : (Router.mk s (rt.budgetAfter a.now a.request)).Receives rest) :
    rt.Receives (a :: rest)

/-! ## One request -/

section
variable (rt : Router) (now : Instant) {r : Request}

theorem any_status_of_dispatch {e : Option Endpoint} {s : Service} {budget : Option Budget}
    {status : Nat} (hno : status ∉ handlerStatuses) :
    (((dispatch e s r).map fun served =>
      (shared served.response, served.elapsed, Router.mk served.after budget)).map (·.1)).any
        (·.status = status) = false := by
  cases hserved : dispatch e s r with
  | none => rfl
  | some served => exact decide_eq_false (status_ne_of_dispatch s r hserved hno)

/-- A request that is not counted leaves the budget as it is and is not refused by it. -/
theorem handle_not_counted (hr : r.isCounted = false) :
    rt.budgetAfter now r = rt.budget ∧ ∀ status, status ∉ handlerStatuses →
      ((rt.handle now r).map (·.1)).any (·.status = status) = false := by
  by_cases ho : r.method = .options
  · rw [Router.budgetAfter, if_pos ho, Router.handle, if_pos ho]
    refine ⟨rfl, ?_⟩
    intro status hno
    refine decide_eq_false ?_
    intro hstatus
    rw [← hstatus] at hno
    exact hno List.mem_cons_self
  · have hp : limitedPath? r.path = none := by
      rw [← Option.not_isSome_iff_eq_none, isSome_limitedPath?]
      exact fun hpath => of_decide_eq_false hr ⟨ho, hpath⟩
    have hroute : rt.route now r = (dispatch (endpoint? r.path) rt.service r, rt.budget) := by
      rw [Router.route, hp]
      cases rt.budget <;> rfl
    rw [Router.budgetAfter, if_neg ho, Router.handle, if_neg ho, hroute]
    exact ⟨rfl, fun _ hno => any_status_of_dispatch hno⟩

/-- A request that is counted is charged to the budget. -/
theorem budgetAfter_counted {b : Budget} (hb : rt.budget = some b) (hr : r.isCounted = true) :
    rt.budgetAfter now r = some (b.request now).2 := by
  obtain ⟨ho, hpath⟩ := of_decide_eq_true hr
  obtain ⟨path, hp⟩ := Option.isSome_iff_exists.1 (isSome_limitedPath?.2 hpath)
  rw [Router.budgetAfter, if_neg ho]
  simp only [Router.route, hb, hp]
  split <;> rfl

end

/-- The response to a request that comes to a broken budget. -/
def outage : Response :=
  shared (ApiFault.unavailable "buffer's worker closed unexpectedly").response

/-- What the router answers to a request that is counted, by the verdict of the budget. -/
inductive Router.Answers (rt : Router) (a : Arrival) : Verdict → Prop
  /-- Whatever the route answers without a limit. -/
  | admitted (h : a.response = (rt.unlimited.handle a.now a.request.singled).map (·.1))
    (hshed : a.isShed = false) (hlost : a.isLost = false) : rt.Answers a .admitted
  | shed (h : a.response = some turnedAway) : rt.Answers a .shed
  | broken (h : a.response = some outage) : rt.Answers a .broken

section
variable {rt : Router} {a : Arrival} {verdict : Verdict}

theorem Router.Answers.isShed_iff (h : rt.Answers a verdict) :
    a.isShed = true ↔ verdict = .shed := by
  cases h with
  | admitted _ hshed _ => simp [hshed]
  | shed h => simp [Arrival.isShed, h]; rfl
  | broken h => simp [Arrival.isShed, h]; decide

theorem Router.Answers.isLost_iff (h : rt.Answers a verdict) :
    a.isLost = true ↔ verdict = .broken := by
  cases h with
  | admitted _ _ hlost => simp [hlost]
  | shed h => simp [Arrival.isLost, h]; decide
  | broken h => simp [Arrival.isLost, h]; rfl

/-- The answer of a window with so much left. -/
theorem Router.Answers.of_left {left : Nat}
    (h : rt.Answers a (if left = 0 then .shed else .admitted)) :
    (a.isShed = true ↔ left = 0) ∧ a.isLost = false := by
  have hshed := h.isShed_iff
  have hlost := h.isLost_iff
  by_cases hleft : left = 0
  · simp_all
  · simp_all

/-- The answer of a broken budget. -/
theorem Router.Answers.of_broken (h : rt.Answers a .broken) :
    a.isShed = false ∧ a.isLost = true := by
  refine ⟨?_, h.isLost_iff.2 rfl⟩
  rw [← Bool.not_eq_true, h.isShed_iff]
  nofun

theorem answers_of_handle {b : Budget} (hb : rt.budget = some b) (hr : a.isCounted = true)
    (h : (rt.handle a.now a.request).map (·.1) = a.response) :
    rt.Answers a (b.request a.now).1 := by
  obtain ⟨ho, hpath⟩ := of_decide_eq_true hr
  obtain ⟨path, hp⟩ := Option.isSome_iff_exists.1 (isSome_limitedPath?.2 hpath)
  have hplain := @handle_unlimited rt a.now a.request ho
  rcases hrequest : b.request a.now with ⟨verdict, b'⟩
  rw [Router.handle, if_neg ho] at h
  simp only [Router.route, hb, hp, hrequest] at h
  cases verdict with
  | admitted =>
    simp only [Verdict.fault?] at h
    simp only [limitedEndpoint?, hp] at hplain
    refine .admitted ?_ ?_ ?_
    · rw [← h, hplain]
      cases dispatch (apiEndpoint? path) rt.service a.request <;> rfl
    · rw [Arrival.isShed, ← h]
      exact any_status_of_dispatch (by decide)
    · rw [Arrival.isLost, ← h]
      exact any_status_of_dispatch (by decide)
  | shed => exact .shed h.symm
  | broken => exact .broken h.symm

end

/-! ## A run -/

/-- Requests come to a budget one after another, and each is answered by its verdict; the service
that answers may be in any state. -/
inductive Budget.Treats : Budget → List Arrival → Prop
  | nil {b : Budget} : b.Treats []
  | cons {b : Budget} {a : Arrival} {rest : List Arrival} (rt : Router) (hb : rt.budget = some b)
    (h : rt.Answers a (b.request a.now).1) (hs : (b.request a.now).2.Treats rest) :
    b.Treats (a :: rest)

theorem Router.Receives.treats {rt : Router} {arrivals : List Arrival} (hs : rt.Receives arrivals)
    {b : Budget} (hb : rt.budget = some b) :
    b.Treats (arrivals.filter Arrival.isCounted) ∧
      ∀ a ∈ arrivals, a.isCounted = false → a.isShed = false ∧ a.isLost = false := by
  induction hs generalizing b with
  | nil => exact ⟨.nil, nofun⟩
  | @cons rt a rest s h _ ih =>
    cases hr : a.isCounted with
    | true =>
      obtain ⟨hrest, hothers⟩ := ih (budgetAfter_counted rt a.now hb hr)
      rw [List.filter_cons_of_pos hr]
      refine ⟨.cons rt hb (answers_of_handle hb hr h) hrest, ?_⟩
      intro u hu hno
      rcases List.mem_cons.1 hu with heq | hu
      · rw [heq, hr] at hno
        cases hno
      · exact hothers u hu hno
    | false =>
      obtain ⟨hbudget, hstatus⟩ := handle_not_counted (r := a.request) rt a.now hr
      obtain ⟨hrest, hothers⟩ := ih (hbudget.trans hb)
      rw [List.filter_cons_of_neg (by rw [hr]; nofun)]
      refine ⟨hrest, ?_⟩
      intro u hu hno
      rcases List.mem_cons.1 hu with heq | hu
      · rw [heq, Arrival.isShed, Arrival.isLost, ← h]
        exact ⟨hstatus 429 (by decide), hstatus 503 (by decide)⟩
      · exact hothers u hu hno

end TrackResolver.Http
