import TrackResolver.Http.Budget

/-!
# A budget at work

A budget is `Working` as long as it has a window. A request that it sheds takes nothing from it.

Results:
* `request_inside`, `request_opens`, `request_breaks`: what a budget that has a window says to a
  request, and what is left of it.
* `Working.request`: a request leaves a working budget at work if the clock can tell the end of the
  window that it may open, and a request that is shed leaves the budget as it is.
-/
namespace TrackResolver.Http

theorem requests_pos {limit : RateLimit} (h : limit.isEnabled = true) :
    0 < limit.requests.toNat := by
  rw [RateLimit.isEnabled, Bool.and_eq_true, decide_eq_true_eq, decide_eq_true_eq] at h
  exact UInt64.lt_iff_toNat_lt.1 h.1

namespace Budget

variable {clock : Clock} {limit : RateLimit} {w : Window} {now : Instant}

theorem take_eq (b : Budget) (w : Window) :
    b.take w = (if w.left = 0 then .shed else .admitted,
      { b with window := some ⟨w.until_, w.left - 1⟩ }) := by
  obtain ⟨until_, left⟩ := w
  cases left <;> rfl

/-- A request that comes before the end of the window. -/
theorem request_inside (clock : Clock) (limit : RateLimit) (hlt : now < w.until_) :
    (Budget.mk clock limit (some w)).request now =
      (if w.left = 0 then .shed else .admitted, ⟨clock, limit, some ⟨w.until_, w.left - 1⟩⟩) :=
  (if_pos hlt).trans (take_eq _ w)

/-- A request that opens a window. -/
theorem request_opens (hlate : ¬ now < w.until_)
    (hclock : clock.tells (now + limit.period.nanos) = true) :
    (Budget.mk clock limit (some w)).request now =
      (if limit.requests.toNat = 0 then .shed else .admitted,
        ⟨clock, limit, some ⟨now + limit.period.nanos, limit.requests.toNat - 1⟩⟩) := by
  unfold Budget.request
  dsimp only
  rw [if_neg hlate, if_pos hclock, take_eq]

/-- A request that would open a window of which the clock cannot tell the end. -/
theorem request_breaks (hlate : ¬ now < w.until_)
    (hclock : clock.tells (now + limit.period.nanos) = false) :
    (Budget.mk clock limit (some w)).request now = (.broken, ⟨clock, limit, none⟩) := by
  unfold Budget.request
  dsimp only
  rw [if_neg hlate, if_neg (Bool.eq_false_iff.1 hclock)]

/-- The budget works for this limit, by this clock. -/
structure Working (clock : Clock) (limit : RateLimit) (b : Budget) : Prop where
  clock_eq : b.clock = clock
  limit_eq : b.limit = limit
  window : b.window ≠ none

theorem working_fresh (clock : Clock) (limit : RateLimit) :
    (fresh clock limit).Working clock limit := ⟨rfl, rfl, nofun⟩

/-- A working budget admits a request and works on, or sheds it and is not changed. -/
theorem Working.request {b : Budget} (h : b.Working clock limit) (he : limit.isEnabled = true)
    (hc : clock.tells (now + limit.period.nanos) = true) :
    b.request now = (.shed, b) ∨
      ∃ b', b.request now = (.admitted, b') ∧ b'.Working clock limit := by
  obtain ⟨clock', limit', window⟩ := b
  obtain rfl : clock' = clock := h.clock_eq
  obtain rfl : limit' = limit := h.limit_eq
  cases window with
  | none => exact absurd rfl h.window
  | some w =>
    by_cases hopen : now < w.until_
    · rw [request_inside clock' limit' hopen]
      obtain ⟨until_, left⟩ := w
      cases left with
      | zero => exact Or.inl rfl
      | succ left => exact Or.inr ⟨_, rfl, rfl, rfl, nofun⟩
    · -- a window that has just been opened has something left
      rw [request_opens hopen hc, if_neg (Nat.ne_of_gt (requests_pos he))]
      exact Or.inr ⟨_, rfl, rfl, rfl, nofun⟩

end Budget

end TrackResolver.Http
