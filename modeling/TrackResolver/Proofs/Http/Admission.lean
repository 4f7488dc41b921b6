import TrackResolver.Proofs.Http.Windows

/-!
# Which requests are admitted

As long as the clock can tell the ends of the windows, of each window the limit's number is admitted
and the others are shed, and nothing but the instants at which the counted requests come says which.

Results:
* `Receives.decides`, `Decides.congr`: which requests are shed depends on the instants alone.
* `Receives.shed_windows`: a run from the start of a service, window by window.
* `admitted_by_window`: both.
-/
namespace TrackResolver.Http

open Router

/-- Requests come to a budget one after another, and are shed if it says so. -/
inductive Budget.Decides : Budget → List Arrival → Prop
  | nil {b : Budget} : b.Decides []
  | cons {b : Budget} {a : Arrival} {rest : List Arrival}
    (h : a.isShed = true ↔ (b.request a.now).1 = .shed)
    (hs : (b.request a.now).2.Decides rest) : b.Decides (a :: rest)

theorem Budget.Treats.decides {b : Budget} {counted : List Arrival} (h : b.Treats counted) :
    b.Decides counted := by
  induction h with
  | nil => exact .nil
  | cons rt hb h _ ih => exact .cons h.isShed_iff ih

/-- The budget decides on the requests that are counted, and none of the others is shed. -/
theorem Router.Receives.decides {rt : Router} {arrivals : List Arrival} (hs : rt.Receives arrivals)
    {b : Budget} (hb : rt.budget = some b) :
    b.Decides (arrivals.filter Arrival.isCounted) ∧
      ∀ a ∈ arrivals, a.isCounted = false → a.isShed = false := by
  obtain ⟨htreats, hothers⟩ := hs.treats hb
  exact ⟨htreats.decides, fun a ha hno => (hothers a ha hno).1⟩

/-- What a budget decides depends on the instants alone. -/
theorem Budget.Decides.congr {b : Budget} {counted others : List Arrival} (h : b.Decides counted)
    (h' : b.Decides others) (hnow : others.map (·.now) = counted.map (·.now)) :
    others.map (·.isShed) = counted.map (·.isShed) := by
  induction h generalizing others with
  | nil => rw [List.map_eq_nil_iff.1 hnow]
  | @cons b a rest ha _ ih =>
    cases h' with
    | nil => cases hnow
    | @cons _ u rest' hu hrest =>
      rw [List.map_cons, List.map_cons, List.cons.injEq] at hnow
      obtain ⟨hnow, hnows⟩ := hnow
      rw [hnow] at hu hrest
      rw [List.map_cons, List.map_cons, ih hrest hnows, Bool.eq_iff_iff.2 (hu.trans ha.symm)]

/-- The windows of a run from the start of a service. -/
theorem Router.Receives.shed_windows {clock : Clock} {s : Service} {limit : RateLimit}
    {arrivals : List Arrival} (hs : (ofService clock (s.withRateLimit limit)).Receives arrivals)
    (he : limit.isEnabled = true)
    (hc : ∀ window ∈ windows limit.period (arrivals.filter Arrival.isCounted),
      ∀ a ∈ window.head?, clock.tells (a.now + limit.period.nanos) = true) :
    ∀ window ∈ windows limit.period (arrivals.filter Arrival.isCounted),
      Shed limit.requests.toNat window := by
  intro window hwindow
  have hweathers := (hs.treats (budget_ofService he clock s)).1.weathers
  exact (hweathers.kept hc window hwindow).1

/-- **A limit admits its number in each window.** Whatever comes to a service with a limit, as long
as the clock can tell the ends of the windows: the requests that are counted fall into windows, of
each window the first are admitted, as many as the limit says, and all others are shed. What is not
counted is not shed, and which of the counted requests are shed depends on nothing but the instants
at which they come. -/
theorem admitted_by_window {clock : Clock} {s : Service} {limit : RateLimit}
    (he : limit.isEnabled = true) {arrivals : List Arrival}
    (hs : (ofService clock (s.withRateLimit limit)).Receives arrivals)
    (hc : ∀ window ∈ windows limit.period (arrivals.filter Arrival.isCounted),
      ∀ a ∈ window.head?, clock.tells (a.now + limit.period.nanos) = true) :
    (windows limit.period (arrivals.filter Arrival.isCounted)).flatten =
      arrivals.filter Arrival.isCounted ∧
    (∀ window ∈ windows limit.period (arrivals.filter Arrival.isCounted),
      Shed limit.requests.toNat window ∧
      window.countP (fun a => !a.isShed) ≤ limit.requests.toNat ∧
      ∀ a ∈ window.head?, a.isShed = false) ∧
    (∀ a ∈ arrivals, a.isCounted = false → a.isShed = false) ∧
    ∀ (s' : Service) (others : List Arrival),
      (ofService clock (s'.withRateLimit limit)).Receives others →
      (others.filter Arrival.isCounted).map (·.now) = (arrivals.filter Arrival.isCounted).map (·.now) →
      (others.filter Arrival.isCounted).map (·.isShed) =
        (arrivals.filter Arrival.isCounted).map (·.isShed) := by
  obtain ⟨hdecides, hothers⟩ := hs.decides (budget_ofService he clock s)
  refine ⟨flatten_windows _ _, ?_, hothers, ?_⟩
  · intro window hwindow
    have h := hs.shed_windows he hc window hwindow
    exact ⟨h, h.countP_le, h.head (requests_pos he)⟩
  · intro s' others h hnow
    exact hdecides.congr (h.decides (budget_ofService he clock s')).1 hnow

/-- A service whose only engine never finds an end. -/
def porch : Service :=
  { build := default
    executor := { registry := .ofList [Script.engine { id := "sleeper", search := .hang }] } }

/-- A request for a search. -/
def knock : Request where
  method := .post
  target := "/api/v1/search"
  headers := [("content-type", "application/json")]
  body := "\x7b\"song\": \x7b\"name\": \"x\"\x7d\x7d".toUTF8.toList

/-- Two requests a second. The first is a search without end, the second is for nothing, and the third
comes too late; at the end of the second the next window opens. -/
def callers : List Arrival :=
  [⟨5, knock, none⟩,
   ⟨5, { method := .get, target := "/health" }, some (shared porch.health.response)⟩,
   ⟨7, { method := .get, target := "/api/v1/" }, some (shared { status := 404 })⟩,
   ⟨1000000004, { method := .get, target := "/api/v1" }, some turnedAway⟩,
   ⟨1000000005, { method := .other "PUT", target := "/api/v1/engines" },
     some (shared { status := 405, headers := [("allow", "GET,HEAD")] })⟩,
   ⟨1000000005, { method := .options, target := "/api/v1" },
     some (shared ((ofService bell (porch.withRateLimit ⟨2, 1⟩)).preflight
       { method := .options, target := "/api/v1" }))⟩]

theorem receives_callers : (ofService bell (porch.withRateLimit ⟨2, 1⟩)).Receives callers := by
  have hwaits : (ofService bell (porch.withRateLimit ⟨2, 1⟩)).handle 5 knock = none := by
    rw [← Option.isNone_iff_eq_none]
    decide +kernel
  exact .cons porch (by rw [hwaits]; rfl)
    (.cons porch rfl (.cons porch rfl (.cons porch rfl (.cons porch rfl (.cons porch rfl .nil)))))

theorem windows_callers : windows (RateLimit.period ⟨2, 1⟩) (callers.filter Arrival.isCounted) =
    [[callers[0], callers[2], callers[3]], [callers[4]]] := by
  have hcounted : callers.filter Arrival.isCounted =
      [callers[0], callers[2], callers[3], callers[4]] := rfl
  rw [hcounted]
  refine (windows_cons_append [callers[2], callers[3]] [callers[4]] (by decide) (by decide)).trans ?_
  simp [windows]

theorem admitted_by_window_callers :
    RateLimit.isEnabled ⟨2, 1⟩ = true ∧
    (ofService bell (porch.withRateLimit ⟨2, 1⟩)).Receives callers ∧
    (∀ window ∈ windows (RateLimit.period ⟨2, 1⟩) (callers.filter Arrival.isCounted),
      ∀ a ∈ window.head?, bell.tells (a.now + (RateLimit.mk 2 1).period.nanos) = true) ∧
    Shed 2 [callers[0], callers[2], callers[3]] ∧ Shed 2 [callers[4]] ∧
    ∀ a ∈ callers, a.isCounted = false → a.isShed = false := by
  have he : RateLimit.isEnabled ⟨2, 1⟩ = true := by decide
  have hc : ∀ window ∈ windows (RateLimit.period ⟨2, 1⟩) (callers.filter Arrival.isCounted),
      ∀ a ∈ window.head?, bell.tells (a.now + (RateLimit.mk 2 1).period.nanos) = true := by
    rw [windows_callers]
    decide
  obtain ⟨-, hshed, hothers, -⟩ := admitted_by_window he receives_callers hc
  rw [windows_callers] at hshed
  exact ⟨he, receives_callers, hc, (hshed _ (by simp)).1, (hshed _ (by simp)).1, hothers⟩

end TrackResolver.Http
