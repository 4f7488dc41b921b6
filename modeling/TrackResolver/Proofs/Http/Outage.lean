import TrackResolver.Proofs.Http.Period

/-!
# When a limit breaks

The end of a window is reckoned when the window opens, and the clock may not be able to tell it.
Then the budget breaks: the request that opens the window, and every request that is counted after
it, is told that the service is unavailable. Up to that request a limit does what it says.

Results:
* `Weathers.not_shed`: the first requests are not shed, broken or not.
* `keepsServing_iff`: how long no request is told that the service is unavailable.
* `served_until_outage`: a service with a limit.
* `not_keepsServing`: a limit that breaks with the first request.
-/
namespace TrackResolver.Http

open Router

section
variable {clock : Clock} {limit : RateLimit}

theorem Weathers.not_shed {cut : List (List Arrival)} (h : Weathers clock limit cut) {m : Nat}
    (hm : m ≤ limit.requests.toNat) : ∀ a ∈ cut.flatten.take m, a.isShed = false := by
  induction h generalizing m with
  | nil => simp
  | window hclock hshed hlost hs ih =>
    intro u hu
    rw [List.flatten_cons, List.take_append] at hu
    rcases List.mem_append.1 hu with hu | hu
    · exact hshed.take hm u hu
    · exact ih (by omega) u hu
  | outage hclock hlost =>
    intro u hu
    obtain ⟨window, hwindow, hmem⟩ := List.mem_flatten.1 (List.mem_of_mem_take hu)
    exact (hlost window hwindow u hmem).1

/-- No request that comes by then is told that the service is unavailable, whatever is sent to a
service with this limit. -/
def KeepsServing (clock : Clock) (limit : RateLimit) (horizon : Instant) : Prop :=
  ∀ (s : Service) (arrivals : List Arrival),
    (ofService clock (s.withRateLimit limit)).Receives arrivals → (∀ a ∈ arrivals, a.now ≤ horizon) →
    ∀ a ∈ arrivals, a.isLost = false

/-- One request that comes at the horizon opens a window, and finds out. -/
theorem KeepsServing.tells (he : limit.isEnabled = true) {horizon : Instant}
    (h : KeepsServing clock limit horizon) : clock.tells (horizon + limit.period.nanos) = true := by
  let s : Service := { build := default, executor := { registry := .empty } }
  obtain ⟨arrivals, hs, hmap⟩ :=
    exists_receives (List.replicate 1 (horizon, enquiry)) (ofService clock (s.withRateLimit limit))
  obtain ⟨hone, hcome⟩ := comeAt_of_map hmap
  obtain ⟨a, heq⟩ := List.length_eq_one_iff.1 hone
  subst heq
  obtain ⟨hnow, hrequest⟩ := hcome a List.mem_cons_self
  have hserved := h s [a] hs (by simp [hnow]) a List.mem_cons_self
  have hcounted : a.isCounted = true := by
    rw [Arrival.isCounted, hrequest]
    decide
  have hweathers := (hs.treats (budget_ofService he clock s)).1.weathers
  rw [List.filter_cons_of_pos hcounted, List.filter_nil, windows] at hweathers
  cases hweathers with
  | window hopen => rwa [hnow] at hopen
  | outage _ hlost =>
    rw [(hlost _ List.mem_cons_self a List.mem_cons_self).2] at hserved
    cases hserved

/-- No window that opens by then ends beyond the clock. -/
theorem keepsServing_of_tells (he : limit.isEnabled = true) {horizon : Instant}
    (hclock : clock.tells (horizon + limit.period.nanos) = true) : KeepsServing clock limit horizon := by
  intro s arrivals hs hnow a ha
  obtain ⟨htreats, hothers⟩ := hs.treats (budget_ofService he clock s)
  cases hr : a.isCounted with
  | false => exact (hothers a ha hr).2
  | true =>
    have hclocks : ∀ u ∈ arrivals.filter Arrival.isCounted,
        clock.tells (u.now + limit.period.nanos) = true := by
      intro u hu
      exact Clock.tells_of_le hclock (Nat.add_le_add_right (hnow u (List.mem_of_mem_filter hu)) _)
    have hin : a ∈ (windows limit.period (arrivals.filter Arrival.isCounted)).flatten := by
      rw [flatten_windows]
      exact List.mem_filter.2 ⟨ha, hr⟩
    obtain ⟨window, hwindow, hmem⟩ := List.mem_flatten.1 hin
    exact (htreats.weathers.kept (forall_head_windows hclocks) window hwindow).2 a hmem

theorem keepsServing_iff (he : limit.isEnabled = true) {horizon : Instant} :
    KeepsServing clock limit horizon ↔ clock.tells (horizon + limit.period.nanos) = true :=
  ⟨KeepsServing.tells he, keepsServing_of_tells he⟩

/-- What becomes of the requests that come to a service with this limit. -/
structure Fares (clock : Clock) (limit : RateLimit) (arrivals : List Arrival) : Prop where
  /-- One after another. -/
  treats : (Budget.fresh clock limit).Treats (arrivals.filter Arrival.isCounted)
  /-- Window by window. -/
  weathers : Weathers clock limit (windows limit.period (arrivals.filter Arrival.isCounted))
  first : ∀ a ∈ (arrivals.filter Arrival.isCounted).take limit.requests.toNat, a.isShed = false
  others : ∀ a ∈ arrivals, a.isCounted = false → a.isShed = false ∧ a.isLost = false

/-- **How long a limit serves.** Every limit that is turned on makes a budget of a positive number
in a positive period. A request that is counted is answered as without a limit, or it is shed, and
the first ones are not; until one opens a window of which the clock cannot tell the end. That one is
told that the service is unavailable, and so are all after it. So no request up to a given instant is
told so exactly if the clock can tell the end of a window that opens then. -/
theorem served_until_outage (he : limit.isEnabled = true) :
    0 < limit.requests.toNat ∧ 0 < limit.period.nanos ∧
    (∀ (s : Service) (arrivals : List Arrival),
      (ofService clock (s.withRateLimit limit)).Receives arrivals → Fares clock limit arrivals) ∧
    ∀ horizon, KeepsServing clock limit horizon ↔ clock.tells (horizon + limit.period.nanos) = true := by
  refine ⟨requests_pos he, Nat.lt_of_succ_lt (period_pos he), ?_, fun _ => keepsServing_iff he⟩
  intro s arrivals hs
  obtain ⟨htreats, hothers⟩ := hs.treats (budget_ofService he clock s)
  have hfirst := htreats.weathers.not_shed (Nat.le_refl limit.requests.toNat)
  rw [flatten_windows] at hfirst
  exact ⟨htreats, htreats.weathers, hfirst, hothers⟩

end

/-- Requests that come to a limit of two in a second, and a limit that a settings file can hold. The
one serves for a century, the other breaks at once. -/
theorem served_until_outage_callers :
    RateLimit.isEnabled ⟨2, 1⟩ = true ∧
    (ofService bell (porch.withRateLimit ⟨2, 1⟩)).Receives callers ∧ Fares bell ⟨2, 1⟩ callers ∧
    KeepsServing bell ⟨2, 1⟩ 3153600000000000000 ∧
    RateLimit.isEnabled ⟨30, 9223372036854775807⟩ = true ∧
    ¬ KeepsServing bell ⟨30, 9223372036854775807⟩ 0 := by
  have he : RateLimit.isEnabled ⟨2, 1⟩ = true := by decide
  have he' : RateLimit.isEnabled ⟨30, 9223372036854775807⟩ = true := by decide
  obtain ⟨-, -, hfares, hkeeps⟩ := served_until_outage he
  obtain ⟨-, -, -, hkeeps'⟩ := served_until_outage he'
  refine ⟨he, receives_callers, hfares porch callers receives_callers, ?_, he', ?_⟩
  · exact (hkeeps _).2 (by decide)
  · rw [hkeeps' 0]
    decide

/-- The greatest period there is. -/
def forever : RateLimit := ⟨30, 18446744073709551615⟩

/-- Not every limit serves even the first request of all. -/
theorem not_keepsServing :
    ¬ ∀ (clock : Clock) (limit : RateLimit), limit.isEnabled = true →
      KeepsServing clock limit 0 := by
  intro h
  have hs : (ofService bell (gate.withRateLimit forever)).Receives [⟨0, enquiry, some outage⟩] :=
    .cons gate rfl .nil
  have hserved := h bell forever (by decide) gate _ hs (by simp) _ List.mem_cons_self
  have hlost : Arrival.isLost ⟨0, enquiry, some outage⟩ = true := rfl
  rw [hlost] at hserved
  cases hserved

end TrackResolver.Http
